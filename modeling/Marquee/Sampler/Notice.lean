import Marquee.Sampler.Sample
import Marquee.Sampler.Sessions

/-!
How the sampler learns of changes: a registration at the source delivers them, and each one leads
to a fresh sample. What is told about a sample is whether it published anything.
-/

namespace Marquee.Sampler

/-- The sampler registers at the source and takes a first sample, since the source may tell nothing
before the next change. -/
def attach (sampler : Sampler) : Sampler × Bool := sampler.subscribeManager.sync.sample

/-- A change is handled. A new list of sessions moves the registrations first. -/
def handleChange (sampler : Sampler) (change : MediaChange) : Sampler × Bool :=
  let sampler := sampler.note .debug "media change notification" [("change", .text change.name)]
  if change = .sessions then sampler.sync.sample else sampler.sample

/-- A registration tells of a change. Nothing happens once the sampler is gone. -/
def deliver (sampler : Sampler) (change : MediaChange) : Sampler × Bool :=
  if sampler.alive then sampler.handleChange change else (sampler, false)

def notify (sampler : Sampler) (token : String) (change : MediaChange) : Sampler × Bool :=
  if sampler.source.listens token then sampler.deliver change else (sampler, false)

end Marquee.Sampler
