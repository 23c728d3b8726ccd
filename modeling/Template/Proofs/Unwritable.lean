import Mathlib.Data.List.Basic
import Template.Proofs.Inputs

/-!
# Output that cannot be written

A run on a full device goes as far as there is room to hold back what it has to print (`Renders.takeAll_held`), and then the write
fails (`Renders.takeAll_refused`). What is held back at the end fails the last flush. So such a run succeeds when there is nothing
to print, and only then (`run_full_device`).
-/

namespace Template

namespace Program

variable {host : Host} {s : Switches} {paths before outputs : List Text} {path text : Text} {flaw : Flaw} {out : Output}

/-- The end of a run whose output was refused. -/
def refusal : Exit where
  code := 1
  stdout := []
  stderr := "varsubst: No space left on device (os error 28)\n".toList

theorem fail_noSpace {p : Progress} (h : p.output.device = .full) : fail p (.write .noSpace) = refusal := by
  have hline : "varsubst: ".toList ++ (Fault.write .noSpace).message ++ ['\n'] = refusal.stderr := by decide +kernel
  unfold fail
  rw [hline, Output.received, h]
  rfl

/-- An output that cannot be written ends the run. -/
theorem takeAll_of_refused (h : output host s before path = .ok text) (hdevice : out.device = .full)
    (hwrite : out.write text = .error .noSpace) (after : List Text) :
    takeAll host s ⟨host.unread before, out⟩ (path :: after) = refusal := by
  rw [takeAll, take_unread, h]
  simp only [hwrite]
  exact fail_noSpace hdevice

/-- As long as there is room for them, outputs are held back. -/
theorem Renders.takeAll_held (h : Renders host s before outputs) (hroom : Output.HoldsAll outputs) (rest : List Text) :
    takeAll host s ⟨host.unread [], { device := .full }⟩ (before ++ rest) =
      takeAll host s ⟨host.unread before, { device := .full, pending := outputs.flatten }⟩ rest := by
  induction h generalizing rest with
  | nothing => rfl
  | @next before outputs path text _ houtput ih =>
    obtain ⟨hbefore, hlast⟩ := Output.holdsAll_concat_iff.mp hroom
    rw [List.append_assoc, ih hbefore, List.singleton_append, takeAll_of_write houtput (Output.write_of_holds hlast),
      List.flatten_concat]

/-- Where there is no room for all of them, an output is refused. -/
theorem Renders.takeAll_refused (h : Renders host s before outputs) (hroom : ¬Output.HoldsAll outputs) (rest : List Text) :
    takeAll host s ⟨host.unread [], { device := .full }⟩ (before ++ rest) = refusal := by
  induction h generalizing rest with
  | nothing => exact absurd Output.holdsAll_nil hroom
  | @next before outputs path text hbefore houtput ih =>
    rw [List.append_assoc, List.singleton_append]
    -- the last output is the first without room, or one before it is
    by_cases hheld : Output.HoldsAll outputs
    · have hlast : ¬Output.Holds outputs.flatten text := fun hlast => hroom (Output.holdsAll_concat_iff.mpr ⟨hheld, hlast⟩)
      rw [hbefore.takeAll_held hheld]
      exact takeAll_of_refused houtput rfl (Output.write_of_full rfl hlast) rest
    · exact ih hheld _

/-- On a full device, a run whose inputs give nothing but empty outputs succeeds. -/
theorem Renders.takeAll_full_of_nil (h : Renders host s paths outputs) (hnil : outputs.flatten = []) :
    takeAll host s ⟨host.unread [], { device := .full }⟩ paths = { code := 0, stdout := [], stderr := [] } := by
  have hheld : Output.HoldsAll outputs :=
    Output.holdsAll_of_lt (fun text hmem => by simp [List.flatten_eq_nil_iff.mp hnil text hmem]) (hnil ▸ by decide)
  have htake := h.takeAll_held hheld []
  rw [List.append_nil] at htake
  rw [htake, takeAll, hnil]
  rfl

/-- On a full device, a run whose inputs give an output that is not empty fails. -/
theorem Renders.takeAll_full_of_ne_nil (h : Renders host s paths outputs) (hne : outputs.flatten ≠ []) :
    takeAll host s ⟨host.unread [], { device := .full }⟩ paths = refusal := by
  rw [← List.append_nil paths]
  by_cases hheld : Output.HoldsAll outputs
  · rw [h.takeAll_held hheld, takeAll, Output.flush_of_full rfl hne]
    exact fail_noSpace rfl
  · exact h.takeAll_refused hheld []

/-- On a full device, a flaw is told if there is room for the outputs before it. -/
theorem Stops.takeAll_held (h : Stops host s paths outputs path flaw) (hroom : Output.HoldsAll outputs) :
    takeAll host s ⟨host.unread [], { device := .full }⟩ paths = { code := 1, stdout := [], stderr := flaw.line path } := by
  cases h with
  | flawed after hrenders houtput =>
    rw [hrenders.takeAll_held hroom, takeAll_of_flaw houtput]
    rfl

theorem Stops.takeAll_refused (h : Stops host s paths outputs path flaw) (hroom : ¬Output.HoldsAll outputs) :
    takeAll host s ⟨host.unread [], { device := .full }⟩ paths = refusal := by
  cases h with
  | flawed after hrenders _ => exact hrenders.takeAll_refused hroom _

/-- What standard output is connected to matters only where a run begins. -/
theorem takeAll_device (host : Host) (device : Device) (s : Switches) (p : Progress) (paths : List Text) :
    takeAll { host with stdout := device } s p paths = takeAll host s p paths := by
  induction paths generalizing p with
  | nil => rfl
  | cons path paths ih =>
    have htake : take { host with stdout := device } s p path = take host s p path := rfl
    rw [takeAll, takeAll, htake]
    cases take host s p path with
    | error fault => rfl
    | ok p => exact ih p

/-- A run takes its inputs, and its output goes where standard output is connected to. -/
theorem run_with_stdout {args : List Text} {invocation : CommandLine.Invocation}
    (h : CommandLine.parse args = .ok invocation) (host : Host) (device : Device) :
    run { host with stdout := device } args =
      takeAll host invocation.switches ⟨host.unread [], { device }⟩ (inputs invocation.inputs) := by
  rw [run_of_parse h]
  exact takeAll_device host device _ _ _

/-- How a run on a full device ends, next to one on a device that accepts everything. -/
theorem takeAll_full_cases {full accepting : Exit}
    (hfull : takeAll host s ⟨host.unread [], { device := .full }⟩ paths = full)
    (haccepting : takeAll host s ⟨host.unread [], { device := .accepting }⟩ paths = accepting) :
    full = ⟨0, [], []⟩ ∧ accepting.code = 0 ∧ accepting.stdout = [] ∨
    full = refusal ∧ accepting.code = 0 ∧ accepting.stdout ≠ [] ∨
    (full = refusal ∨ full = ⟨1, [], accepting.stderr⟩) ∧ accepting.code = 1 ∧
      ∃ outputs path flaw, Stops host s paths outputs path flaw := by
  rcases renders_or_stops host s paths with ⟨outputs, h⟩ | ⟨outputs, path, flaw, h⟩
  · rw [h.takeAll_eq] at haccepting
    subst haccepting
    by_cases hnil : outputs.flatten = []
    · rw [h.takeAll_full_of_nil hnil] at hfull
      exact .inl ⟨hfull.symm, rfl, hnil⟩
    · rw [h.takeAll_full_of_ne_nil hnil] at hfull
      exact .inr (.inl ⟨hfull.symm, rfl, hnil⟩)
  · refine .inr (.inr ⟨?_, by rw [← haccepting, h.takeAll_eq], outputs, path, flaw, h⟩)
    rw [h.takeAll_eq] at haccepting
    subst haccepting
    by_cases hroom : Output.HoldsAll outputs
    · exact .inr (hfull.symm.trans (h.takeAll_held hroom))
    · exact .inl (hfull.symm.trans (h.takeAll_refused hroom))

/-- Which message a run on a full device ends with that stops at a flaw. -/
theorem Stops.message_of_full {full accepting : Exit} (h : Stops host s paths outputs path flaw)
    (hfull : takeAll host s ⟨host.unread [], { device := .full }⟩ paths = full)
    (haccepting : takeAll host s ⟨host.unread [], { device := .accepting }⟩ paths = accepting) :
    ((∃ text ∈ outputs, '\n' ∈ text) ∨ 1024 < Text.utf8Size outputs.flatten → full.stderr = refusal.stderr) ∧
    ((∀ text ∈ outputs, '\n' ∉ text) → Text.utf8Size outputs.flatten < 1024 → full.stderr = accepting.stderr) ∧
    ((∀ text ∈ outputs, '\n' ∉ text) → Text.utf8Size outputs.flatten = 1024 →
      full.stderr = if ∃ text ∈ outputs, Text.utf8Size text = 1024 then refusal.stderr else accepting.stderr) := by
  have hheld (hroom : Output.HoldsAll outputs) : full.stderr = accepting.stderr := by
    rw [← hfull, ← haccepting, h.takeAll_held hroom, h.takeAll_eq]
  have hrefused (hroom : ¬Output.HoldsAll outputs) : full.stderr = refusal.stderr := by
    rw [← hfull, h.takeAll_refused hroom]
  refine ⟨?_, fun hunbroken hlt => hheld (Output.holdsAll_of_lt hunbroken hlt), fun hunbroken heq => ?_⟩
  · rintro (⟨text, hmem, hbreak⟩ | hlt)
    · exact hrefused fun hroom => hroom.unbroken text hmem hbreak
    · exact hrefused fun hroom => absurd hroom.fit (Nat.not_le.mpr hlt)
  · have hroom := Output.holdsAll_iff_of_eq hunbroken heq
    split
    · next hfills => exact hrefused fun h => hroom.mp h hfills
    · next hfills => exact hheld (hroom.mpr hfills)

/-- No run on a full device succeeds with output lost. A command line that asks for no help is run on a host whose standard
output is full, and on the same host with a standard output that accepts everything.
1. The full run succeeds when the accepting run succeeds and prints nothing, and only then; it prints no message then.
2. Otherwise it exits with 1 and one message, that its output was refused or that of the accepting run, which has failed then.
3. When the accepting run succeeds and prints something, the output was refused.
4. When the accepting run fails, one of the inputs is the first that has a flaw, and the flaw is its message. If there is a line
   break in an output before that input, or these outputs take up more than 1024 bytes, the output was refused. If there is no
   line break in them and they take up fewer, the message is that of the accepting run; and if they take up as many, it is that
   unless one of them takes up the 1024 bytes alone. -/
theorem run_full_device (host : Host) {args : List Text} {invocation : CommandLine.Invocation} {full accepting : Exit}
    (hparse : CommandLine.parse args = .ok invocation) (hfull : run { host with stdout := .full } args = full)
    (haccepting : run { host with stdout := .accepting } args = accepting) :
    (full.code = 0 ↔ accepting.code = 0 ∧ accepting.stdout = []) ∧ (full.code = 0 → full.stderr = []) ∧
    (full.code ≠ 0 → full.code = 1 ∧ (full.stderr = "varsubst: No space left on device (os error 28)\n".toList ∨
      accepting.code = 1 ∧ full.stderr = accepting.stderr)) ∧
    (accepting.code = 0 → accepting.stdout ≠ [] →
      full.stderr = "varsubst: No space left on device (os error 28)\n".toList) ∧
    (accepting.code ≠ 0 → ∃ outputs path flaw, Stops host invocation.switches (inputs invocation.inputs) outputs path flaw) ∧
    ∀ outputs path flaw, Stops host invocation.switches (inputs invocation.inputs) outputs path flaw →
      accepting = { code := 1, stdout := outputs.flatten, stderr := flaw.line path } ∧
      ((∃ text ∈ outputs, '\n' ∈ text) ∨ 1024 < Text.utf8Size outputs.flatten →
        full.stderr = "varsubst: No space left on device (os error 28)\n".toList) ∧
      ((∀ text ∈ outputs, '\n' ∉ text) → Text.utf8Size outputs.flatten < 1024 → full.stderr = accepting.stderr) ∧
      ((∀ text ∈ outputs, '\n' ∉ text) → Text.utf8Size outputs.flatten = 1024 →
        full.stderr = if ∃ text ∈ outputs, Text.utf8Size text = 1024 then
          "varsubst: No space left on device (os error 28)\n".toList else accepting.stderr) := by
  rw [run_with_stdout hparse] at hfull haccepting
  have hwhich outputs path flaw (h : Stops host invocation.switches (inputs invocation.inputs) outputs path flaw) :=
    And.intro (haccepting.symm.trans h.takeAll_eq) (h.message_of_full hfull haccepting)
  rcases takeAll_full_cases hfull haccepting with
    ⟨rfl, hcode, hstdout⟩ | ⟨rfl, hcode, hstdout⟩ | ⟨hfailed, hcode, hstops⟩
  · exact ⟨⟨fun _ => ⟨hcode, hstdout⟩, fun _ => rfl⟩, fun _ => rfl, fun h => absurd rfl h, fun _ h => absurd hstdout h,
      fun h => absurd hcode h, hwhich⟩
  · exact ⟨⟨nofun, fun h => absurd h.2 hstdout⟩, nofun, fun _ => ⟨rfl, .inl rfl⟩, fun _ _ => rfl,
      fun h => absurd hcode h, hwhich⟩
  · have hne : accepting.code ≠ 0 := by rw [hcode]; decide
    rcases hfailed with rfl | rfl
    · exact ⟨⟨nofun, fun h => absurd h.1 hne⟩, nofun, fun _ => ⟨rfl, .inl rfl⟩, fun h => absurd h hne, fun _ => hstops, hwhich⟩
    · exact ⟨⟨nofun, fun h => absurd h.1 hne⟩, nofun, fun _ => ⟨rfl, .inr ⟨hcode, rfl⟩⟩, fun h => absurd h hne,
        fun _ => hstops, hwhich⟩

/-- A flaw is told behind an output without a line break, and the output is refused if it has one. -/
theorem run_full_device_short :
    let host : Host := {
      read := fun path => if path = ['a'] then .ok "x".toUTF8 else if path = ['b'] then .ok "y\n".toUTF8 else .error .notFound }
    let full : Host := { host with stdout := .full }
    CommandLine.parse ["a".toList, "lost".toList] = .ok { inputs := ["a".toList, "lost".toList] } ∧
      CommandLine.parse ["b".toList, "lost".toList] = .ok { inputs := ["b".toList, "lost".toList] } ∧
      (run full ["a".toList, "lost".toList]).stderr = (run host ["a".toList, "lost".toList]).stderr ∧
      (run full ["b".toList, "lost".toList]).stderr = "varsubst: No space left on device (os error 28)\n".toList := by
  intro host full
  have hparse : CommandLine.parse ["a".toList, "lost".toList] = .ok { inputs := ["a".toList, "lost".toList] } := rfl
  have hparse' : CommandLine.parse ["b".toList, "lost".toList] = .ok { inputs := ["b".toList, "lost".toList] } := rfl
  have ha : output host {} [] "a".toList = .ok "x".toList := by decide +kernel
  have hb : output host {} [] "b".toList = .ok "y\n".toList := by decide +kernel
  have hlost (before : List Text) : output host {} before "lost".toList = .error (.unreadable (.system .notFound)) := rfl
  obtain ⟨-, -, -, -, -, hunbroken⟩ := run_full_device host hparse rfl rfl
  obtain ⟨-, -, -, -, -, hbroken⟩ := run_full_device host hparse' rfl rfl
  refine ⟨hparse, hparse', ?_, ?_⟩
  · exact (hunbroken _ _ _ (.flawed [] (Renders.nothing.next ha) (hlost _))).2.2.1 (by decide) (by decide)
  · exact (hbroken _ _ _ (.flawed [] (Renders.nothing.next hb) (hlost _))).2.1 (.inl ⟨_, List.mem_singleton_self _, by decide⟩)

end Program

end Template
