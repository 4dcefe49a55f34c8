import Marquee.Message.Outbound

/-!
The image that a button shows: the last one among the calls that the host has received for it.
-/

namespace Marquee

namespace HostCall

def imageFor (context : String) : HostCall → Option String
  | setImage other image _ => if other = context then some image else none
  | _ => none

end HostCall

def lastImage (context : String) (calls : List HostCall) : Option String :=
  (calls.filterMap (HostCall.imageFor context)).getLast?

@[simp] theorem lastImage_image (context image : String) (target : Target)
    (calls : List HostCall) :
    lastImage context (calls ++ [.setImage context image target]) = some image := by
  simp [lastImage, HostCall.imageFor]

theorem lastImage_image_other {context other : String} (differ : other ≠ context) (image : String)
    (target : Target) (calls : List HostCall) :
    lastImage context (calls ++ [.setImage other image target]) = lastImage context calls := by
  simp [lastImage, HostCall.imageFor, differ]

@[simp] theorem lastImage_title (context other title : String) (target : Target)
    (calls : List HostCall) :
    lastImage context (calls ++ [.setTitle other title target]) = lastImage context calls := by
  simp [lastImage, HostCall.imageFor]

theorem lastImage_image_title (context other image title : String) (target : Target)
    (calls : List HostCall) :
    lastImage context (calls ++ [.setImage other image target, .setTitle other title target]) =
      lastImage context (calls ++ [.setImage other image target]) := by
  rw [List.append_cons, lastImage_title]

end Marquee
