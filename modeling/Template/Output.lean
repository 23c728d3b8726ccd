import Template.Host

/-!
# Output: text on its way to a device, a line at a time

Text that is written is held back until its line is complete. Lines are delivered as soon as their line break is written,
together with what was held back before them; the rest of a line is held back as far as there is room for it. What is still
held back is delivered by a flush, or when the program ends.
-/

namespace Template

/-- How many bytes of an incomplete line can be held back. -/
def Output.capacity : Nat := 1024

/-- Standard output in the course of a run. -/
structure Output where
  /-- Where the text goes. -/
  device : Device
  /-- The texts that have arrived there, the last one first. -/
  delivered : List Text := []
  /-- What is held back. -/
  pending : Text := []

namespace Output

/-- Hands a text to the device. -/
def deliver (out : Output) (text : Text) : Except SystemError Output :=
  if out.device = .full ∧ text ≠ [] then .error .noSpace
  else .ok { out with delivered := text :: out.delivered }

/-- Delivers what is held back. -/
def flush (out : Output) : Except SystemError Output :=
  deliver { out with pending := [] } out.pending

/-- Holds back a part of a line. Where it does not fit, what was held back before is delivered; a part that would fill all the
room by itself is delivered at once. -/
def hold (out : Output) (text : Text) : Except SystemError Output := do
  let out ← if Text.utf8Size out.pending + Text.utf8Size text > capacity then out.flush else .ok out
  if capacity ≤ Text.utf8Size text then out.deliver text
  else .ok { out with pending := out.pending ++ text }

/-- Writes a text. -/
def write (out : Output) (text : Text) : Except SystemError Output := do
  let (lines, tail) := text.cutLines
  let out ← if lines = [] then .ok out else flush { out with pending := out.pending ++ lines }
  out.hold tail

/-- What has arrived at the device when the program has ended. -/
def received (out : Output) : Text :=
  match out.device with
  | .accepting => out.delivered.reverse.flatten ++ out.pending
  | .full => []

end Output

end Template
