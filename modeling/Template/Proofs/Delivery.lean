import Mathlib.Data.List.TakeWhile
import Template.Output

/-!
# What becomes of text that is written

A device that accepts everything receives what is written, text by text, wherever it is held back in between
(`write_of_accepting`). On a full device, a text is either held back whole or it fails the write (`write_of_holds`,
`write_of_full`), and a list of texts is held back as long as there is no line break in it and its size does not exceed the
room (`holdsAll_concat_iff`).
-/

namespace Template

namespace Text

/-- A text has a whole line when there is a line break in it. -/
theorem cutLines_fst_eq_nil_iff {t : Text} : (cutLines t).1 = [] ↔ '\n' ∉ t := by
  simp only [cutLines, List.reverse_eq_nil_iff, List.dropWhile_eq_nil_iff, List.mem_reverse, decide_eq_true_eq]
  exact ⟨fun h hmem => h _ hmem rfl, fun h c hc heq => h (heq ▸ hc)⟩

/-- A text without a line break is a part of a line. -/
theorem cutLines_of_not_mem {t : Text} (h : '\n' ∉ t) : cutLines t = ([], t) := by
  have hlines := cutLines_fst_eq_nil_iff.mpr h
  have htext := cutLines_append t
  rw [hlines, List.nil_append] at htext
  exact Prod.ext hlines htext

/-- Each of some texts takes up as much as all of them, or less. -/
theorem utf8Size_le_flatten {texts : List Text} {t : Text} (h : t ∈ texts) : utf8Size t ≤ utf8Size texts.flatten := by
  obtain ⟨pre, post, rfl⟩ := List.append_of_mem h
  rw [List.flatten_append, List.flatten_cons, utf8Size_append, utf8Size_append]
  omega

end Text

namespace Output

variable {out : Output} {text : Text}

/-! ## One operation from another -/

/-- Where there is room for what is held back and a part of a line, that part is held back, unless it fills all the room. -/
theorem hold_of_room (h : Text.utf8Size out.pending + Text.utf8Size text ≤ capacity) :
    out.hold text =
      if capacity ≤ Text.utf8Size text then out.deliver text else .ok { out with pending := out.pending ++ text } := by
  unfold hold
  rw [if_neg (Nat.not_lt.mpr h)]
  rfl

/-- Where there is no room for both, what is held back is flushed first. -/
theorem hold_of_no_room (h : capacity < Text.utf8Size out.pending + Text.utf8Size text) :
    out.hold text = out.flush.bind fun out =>
      if capacity ≤ Text.utf8Size text then out.deliver text else .ok { out with pending := out.pending ++ text } := by
  unfold hold
  rw [if_pos h]
  rfl

/-- Without a line break, a text is a part of a line. -/
theorem write_of_not_mem (h : '\n' ∉ text) : out.write text = out.hold text := by
  unfold write
  rw [Text.cutLines_of_not_mem h]
  rfl

/-- With a line break in a text, its whole lines are flushed behind what is held back, and the rest is a part of a line. -/
theorem write_of_mem (h : '\n' ∈ text) :
    out.write text = (flush { out with pending := out.pending ++ text.cutLines.1 }).bind (·.hold text.cutLines.2) := by
  have hlines : text.cutLines.1 ≠ [] := fun hnil => Text.cutLines_fst_eq_nil_iff.mp hnil h
  unfold write
  simp only [if_neg hlines]
  rfl

/-- Nothing has been received before anything is written. -/
theorem received_nothing (device : Device) : received { device } = [] := by
  cases device <;> rfl

/-! ## A device that accepts everything -/

/-- What an accepting device has received, and what is held back for it. -/
theorem received_of_accepting (h : out.device = .accepting) :
    out.received = out.delivered.reverse.flatten ++ out.pending := by
  simp only [received, h]

/-- With nothing held back, what is delivered to an accepting device is received. -/
theorem deliver_of_accepting (h : out.device = .accepting) (hpending : out.pending = []) (text : Text) :
    ∃ out', out.deliver text = .ok out' ∧ out'.device = .accepting ∧ out'.pending = [] ∧
      out'.received = out.received ++ text := by
  refine ⟨{ out with delivered := text :: out.delivered }, by simp [deliver, h], h, hpending, ?_⟩
  rw [received_of_accepting h, received_of_accepting (by exact h), hpending]
  simp

/-- A flush changes nothing in what an accepting device receives. -/
theorem flush_of_accepting (h : out.device = .accepting) :
    ∃ out', out.flush = .ok out' ∧ out'.device = .accepting ∧ out'.pending = [] ∧ out'.received = out.received := by
  have hemptied : device { out with pending := [] } = .accepting := h
  obtain ⟨out', hdeliver, hdevice, hpending, hreceived⟩ := deliver_of_accepting hemptied rfl out.pending
  refine ⟨out', hdeliver, hdevice, hpending, ?_⟩
  rw [hreceived, received_of_accepting h, received_of_accepting (by exact h), List.append_nil]

/-- What is held back is received by an accepting device. -/
theorem received_pending (h : out.device = .accepting) (text : Text) :
    received { out with pending := out.pending ++ text } = out.received ++ text := by
  rw [received_of_accepting h, received_of_accepting (by exact h), List.append_assoc]

/-- A part of a line is received by an accepting device, held back or not, if nothing is held back where it fills the room. -/
theorem deliver_or_hold_of_accepting (h : out.device = .accepting) (text : Text)
    (hpending : capacity ≤ Text.utf8Size text → out.pending = []) :
    ∃ out', (if capacity ≤ Text.utf8Size text then out.deliver text
        else .ok { out with pending := out.pending ++ text }) = .ok out' ∧
      out'.device = .accepting ∧ out'.received = out.received ++ text := by
  split
  · next hfills =>
    obtain ⟨out', hdeliver, hdevice, -, hreceived⟩ := deliver_of_accepting h (hpending hfills) text
    exact ⟨out', hdeliver, hdevice, hreceived⟩
  · exact ⟨_, rfl, h, received_pending h text⟩

theorem hold_of_accepting (h : out.device = .accepting) (text : Text) :
    ∃ out', out.hold text = .ok out' ∧ out'.device = .accepting ∧ out'.received = out.received ++ text := by
  rcases Nat.lt_or_ge capacity (Text.utf8Size out.pending + Text.utf8Size text) with hlt | hle
  · obtain ⟨out₁, hflush, hdevice, hpending, hreceived⟩ := flush_of_accepting h
    obtain ⟨out', hout', hdevice', hreceived'⟩ := deliver_or_hold_of_accepting hdevice text fun _ => hpending
    refine ⟨out', ?_, hdevice', hreceived' ▸ hreceived ▸ rfl⟩
    rw [hold_of_no_room hlt, hflush]
    exact hout'
  · rw [hold_of_room hle]
    refine deliver_or_hold_of_accepting h text fun hfills => ?_
    rw [← Text.utf8Size_eq_zero_iff]
    omega

/-- An accepting device receives what is written. -/
theorem write_of_accepting (h : out.device = .accepting) (text : Text) :
    ∃ out', out.write text = .ok out' ∧ out'.device = .accepting ∧ out'.received = out.received ++ text := by
  by_cases hmem : '\n' ∈ text
  · have hlines : device { out with pending := out.pending ++ text.cutLines.1 } = .accepting := h
    obtain ⟨out₁, hflush, hdevice, -, hreceived⟩ := flush_of_accepting hlines
    obtain ⟨out', hhold, hdevice', hreceived'⟩ := hold_of_accepting hdevice text.cutLines.2
    refine ⟨out', ?_, hdevice', ?_⟩
    · rw [write_of_mem hmem, hflush]
      exact hhold
    · rw [hreceived', hreceived, received_pending h, List.append_assoc, Text.cutLines_append]
  · rw [write_of_not_mem hmem]
    exact hold_of_accepting h text

/-! ## A full device -/

/-- The empty text does not fill the room. -/
theorem ne_nil_of_fills (h : capacity ≤ Text.utf8Size text) : text ≠ [] := by
  rintro rfl
  exact absurd h (by decide)

/-- Nothing but the empty text can be delivered to a full device. -/
theorem deliver_of_full (h : out.device = .full) (htext : text ≠ []) : out.deliver text = .error .noSpace := by
  simp [deliver, h, htext]

theorem flush_of_full (h : out.device = .full) (hpending : out.pending ≠ []) : out.flush = .error .noSpace :=
  deliver_of_full h hpending

/-- There is room to hold back a text behind what is held back: it has no line break, both fit, and it does not fill the room by
itself. -/
structure Holds (pending text : Text) : Prop where
  unbroken : '\n' ∉ text
  fits : Text.utf8Size pending + Text.utf8Size text ≤ capacity
  short : Text.utf8Size text < capacity

/-- Whatever the device, a text for which there is room is held back. -/
theorem write_of_holds (h : Holds out.pending text) : out.write text = .ok { out with pending := out.pending ++ text } := by
  rw [write_of_not_mem h.unbroken, hold_of_room h.fits, if_neg (Nat.not_le.mpr h.short)]

/-- On a full device, a text for which there is no room fails the write. -/
theorem write_of_full (hdevice : out.device = .full) (h : ¬Holds out.pending text) : out.write text = .error .noSpace := by
  by_cases hmem : '\n' ∈ text
  · have hlines : out.pending ++ text.cutLines.1 ≠ [] :=
      List.append_ne_nil_of_right_ne_nil _ fun hnil => Text.cutLines_fst_eq_nil_iff.mp hnil hmem
    have hfull : device { out with pending := out.pending ++ text.cutLines.1 } = .full := hdevice
    rw [write_of_mem hmem, flush_of_full hfull hlines]
    rfl
  · rw [write_of_not_mem hmem]
    rcases Nat.lt_or_ge capacity (Text.utf8Size out.pending + Text.utf8Size text) with hlt | hle
    · rw [hold_of_no_room hlt]
      by_cases hpending : out.pending = []
      · have hfills : capacity ≤ Text.utf8Size text := by
          rw [hpending, Text.utf8Size_eq_zero_iff.mpr rfl] at hlt
          omega
        have hflush : out.flush = .ok { out with pending := [], delivered := [] :: out.delivered } := by
          simp [flush, deliver, hpending]
        rw [hflush]
        simp only [Except.bind, if_pos hfills]
        exact deliver_of_full hdevice (ne_nil_of_fills hfills)
      · rw [flush_of_full hdevice hpending]
        rfl
    · have hfills : capacity ≤ Text.utf8Size text := Nat.le_of_not_lt fun hshort => h ⟨hmem, hle, hshort⟩
      rw [hold_of_room hle, if_pos hfills]
      exact deliver_of_full hdevice (ne_nil_of_fills hfills)

/-- There is room to hold back texts, one behind the other: there is no line break in them, all of them fit, and none fills the
room by itself. -/
structure HoldsAll (texts : List Text) : Prop where
  unbroken : ∀ text ∈ texts, '\n' ∉ text
  fit : Text.utf8Size texts.flatten ≤ capacity
  short : ∀ text ∈ texts, Text.utf8Size text < capacity

theorem holdsAll_nil : HoldsAll [] := ⟨nofun, by decide, nofun⟩

/-- There is room for texts and one more when there is for the texts, and behind them for the other. -/
theorem holdsAll_concat_iff {texts : List Text} :
    HoldsAll (texts ++ [text]) ↔ HoldsAll texts ∧ Holds texts.flatten text := by
  constructor
  · rintro ⟨hunbroken, hfit, hshort⟩
    rw [List.flatten_concat, Text.utf8Size_append] at hfit
    rw [List.forall_mem_append, List.forall_mem_singleton] at hunbroken hshort
    exact ⟨⟨hunbroken.1, by omega, hshort.1⟩, hunbroken.2, hfit, hshort.2⟩
  · rintro ⟨⟨hunbroken, -, hshort⟩, hunbroken', hfits, hshort'⟩
    refine ⟨?_, by rwa [List.flatten_concat, Text.utf8Size_append], ?_⟩ <;>
      rw [List.forall_mem_append, List.forall_mem_singleton]
    exacts [⟨hunbroken, hunbroken'⟩, ⟨hshort, hshort'⟩]

/-- There is room for texts without a line break that are short even together. -/
theorem holdsAll_of_lt {texts : List Text} (hunbroken : ∀ text ∈ texts, '\n' ∉ text)
    (hlt : Text.utf8Size texts.flatten < capacity) : HoldsAll texts :=
  ⟨hunbroken, Nat.le_of_lt hlt, fun _ hmem => Nat.lt_of_le_of_lt (Text.utf8Size_le_flatten hmem) hlt⟩

/-- There is room for texts without a line break that fill it together, unless one of them fills it by itself. -/
theorem holdsAll_iff_of_eq {texts : List Text} (hunbroken : ∀ text ∈ texts, '\n' ∉ text)
    (heq : Text.utf8Size texts.flatten = capacity) : HoldsAll texts ↔ ¬∃ text ∈ texts, Text.utf8Size text = capacity := by
  constructor
  · rintro hroom ⟨text, hmem, hfills⟩
    exact absurd (hroom.short text hmem) (Nat.not_lt.mpr hfills.ge)
  · intro hnone
    refine ⟨hunbroken, heq.le, fun text hmem => Nat.lt_of_le_of_ne ?_ fun hfills => hnone ⟨text, hmem, hfills⟩⟩
    exact (Text.utf8Size_le_flatten hmem).trans heq.le

end Output

end Template
