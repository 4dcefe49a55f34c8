import Marquee.Controller.Buttons
import Marquee.Message.Inbound

/-!
What the controller does with the messages of the deck software.
-/

namespace Marquee.Controller

def handleEvent (controller : Controller) : HostEvent → Controller
  | .willAppear context settings => controller.appear context settings
  | .willDisappear context => controller.disappear context
  | .didReceiveSettings context settings => controller.changeSettings id context settings
  | .titleParametersDidChange context size => controller.changeFont context size
  | .keyDown _ => controller
  | .keyUp _ => controller
  | .deviceDidConnect _ => controller
  | .deviceDidDisconnect _ => controller
  | .sendToPlugin _ => controller
  | .unknown name => controller.note .debug "ignoring host event" [("event", .text name)]

/-- A raw message. One that cannot be read is logged and has no other effect. -/
def handleMessage (controller : Controller) (raw : String) : Controller :=
  match HostEvent.read raw with
  | .ok event => controller.handleEvent event
  | .error fault =>
    controller.note .warn "dropping host message" [("error", .text (HostEvent.refusal raw fault))]

end Marquee.Controller
