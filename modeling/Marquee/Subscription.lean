/-!
Subscriptions. A subscription keeps one registration alive; revoking it or letting it go ends the
registration, exactly once.
-/

namespace Marquee

structure Subscription where
  active : Bool := true
deriving DecidableEq, Repr, Inhabited

def Subscription.revoke (subscription : Subscription) : Subscription × Nat :=
  if subscription.active then (⟨false⟩, 1) else (subscription, 0)

structure SubscriptionList where
  places : List (Option Subscription) := []
  revoked : Nat := 0
deriving DecidableEq, Repr, Inhabited

namespace SubscriptionList

def add (list : SubscriptionList) : SubscriptionList := ⟨list.places ++ [some ⟨true⟩], list.revoked⟩

def revoke (list : SubscriptionList) (index : Nat) : SubscriptionList :=
  match list.places[index]? with
  | some (some subscription) => ⟨list.places.set index none, list.revoked + subscription.revoke.2⟩
  | _ => list

private def placeText : Option Subscription → String
  | none => "None"
  | some subscription =>
    let active := if subscription.active then "true" else "false"
    "Some(Subscription \x7b active: " ++ active ++ " \x7d)"

def text (list : SubscriptionList) : String :=
  "[" ++ String.intercalate ", " (list.places.map placeText) ++ "]"

end SubscriptionList

end Marquee
