import Template.Proofs.Expansion

/-!
# The course of a substitution

`Course` says how a substitution goes, without running it: it does the pieces of a template in order until none is left, or until
the next one is a malformed reference that is rejected, or a reference whose name the resolver does not answer. Every
substitution takes a course (`exists_course`), and what it asks for, counts and reports is settled by it
(`substitute_of_course`).
-/

namespace Template

variable {σ ε : Type}

namespace Error

/-- Whether an error is that a name is missing. -/
def isNoName : Error → Bool
  | noName _ => true
  | _ => false

/-- Whether an error is that the template ended too soon. -/
def isUnterminated : Error → Bool
  | unterminatedVariable _ => true
  | _ => false

/-- Whether an error is about a character. -/
def isBadCharacter : Error → Bool
  | badCharacter _ _ _ => true
  | _ => false

end Error

/-- The error of a malformed reference, if that is what a substitution ends with. -/
def rejection? : Except (Failure ε) Text → Option Error
  | .error (.malformed e) => some e
  | _ => none

/-- A substitution in pieces, for a resolver in a state: the pieces it does, the values for their names, the names it asks for,
and what it ends with. -/
inductive Course (o : Options) (r : Resolver σ ε) (st : σ) :
    List Piece → List Piece → List (Option Text) → List Text → Except (Failure ε) Text → Prop where
  /-- Every piece is done. -/
  | completes {done : List Piece} {values : List (Option Text)} {st' : σ} : (∀ p ∈ done, o.accepts p = true) →
      r.Answers st (Segment.names (done.map Piece.segment)) values st' →
        Course o r st done done values (Segment.names (done.map Piece.segment))
          (.ok (Segment.fill (done.map Piece.segment) values))
  /-- The next piece is malformed, and it is rejected. -/
  | rejects {done after : List Piece} {m : Malformed} {values : List (Option Text)} {st' : σ} : o.strict = true →
      (∀ p ∈ done, o.accepts p = true) → r.Answers st (Segment.names (done.map Piece.segment)) values st' →
        Course o r st (done ++ .malformed m :: after) done values (Segment.names (done.map Piece.segment))
          (.error (.malformed (m.errorAt (done.flatMap Piece.text).length)))
  /-- The next piece is a reference, and the resolver fails at its name. -/
  | fails {done after : List Piece} {ref : Reference} {values : List (Option Text)} {st₁ st₂ : σ} {e : ε} :
      (∀ p ∈ done, o.accepts p = true) → r.Answers st (Segment.names (done.map Piece.segment)) values st₁ →
        r.ask st₁ ref.name = (.error e, st₂) →
          Course o r st (done ++ .reference ref :: after) done values
            (Segment.names (done.map Piece.segment) ++ [ref.name]) (.error (.resolver e))

/-- Accepted pieces, behind which others stand, are all done, or the resolver fails at the name of one of them. -/
theorem answers_or_course {o : Options} {ps : List Piece} (hps : ∀ p ∈ ps, o.accepts p = true) (r : Resolver σ ε) (st : σ)
    (rest : List Piece) :
    (∃ values st', r.Answers st (Segment.names (ps.map Piece.segment)) values st') ∨
      ∃ done values calls result, Course o r st (ps ++ rest) done values calls result := by
  rcases r.answers_or_fails st (Segment.names (ps.map Piece.segment)) with
    hall | ⟨before, name, after, values, st₁, e, st₂, hnames, h, hask⟩
  · exact Or.inl hall
  · obtain ⟨done, ref, later, rfl, rfl, rfl⟩ := reference_of_names hnames
    rw [List.append_assoc, List.cons_append]
    exact Or.inr ⟨done, values, _, _, .fails (fun p hp => hps p (List.mem_append_left _ hp)) h hask⟩

/-- Every substitution takes a course. -/
theorem exists_course (o : Options) (r : Resolver σ ε) (st : σ) (ps : List Piece) :
    ∃ done values calls result, Course o r st ps done values calls result := by
  rcases rejected_or_accepted o ps with ⟨before, m, after, hs, rfl, hbefore⟩ | hall
  · rcases answers_or_course hbefore r st (.malformed m :: after) with ⟨values, st', h⟩ | hcourse
    · exact ⟨before, values, _, _, .rejects hs hbefore h⟩
    · exact hcourse
  · rcases answers_or_course hall r st [] with ⟨values, st', h⟩ | hcourse
    · exact ⟨ps, values, _, _, .completes hall h⟩
    · rw [List.append_nil] at hcourse
      exact hcourse

namespace Course

variable {o : Options} {r : Resolver σ ε} {st : σ} {ps done : List Piece} {values : List (Option Text)}
  {calls : List Text} {result : Except (Failure ε) Text}

/-- There is a value for each name asked for but the one that the resolver fails at. -/
theorem length_values_le (h : Course o r st ps done values calls result) : values.length ≤ calls.length := by
  cases h with
  | completes _ h => exact Nat.le_of_eq h.length_eq
  | rejects _ _ h => exact Nat.le_of_eq h.length_eq
  | fails _ h _ =>
    rw [List.length_append, h.length_eq]
    exact Nat.le_add_right _ _

/-- What is done is accepted. -/
theorem accepts (h : Course o r st ps done values calls result) : ∀ p ∈ done, o.accepts p = true := by
  cases h with
  | completes hdone _ => exact hdone
  | rejects _ hdone _ => exact hdone
  | fails hdone _ _ => exact hdone

/-- Unless the resolver fails, the pieces up to the first that is rejected are done, and their names are asked for. -/
theorem done_eq (h : Course o r st ps done values calls result) (hr : ∀ e, result ≠ .error (.resolver e)) :
    done = ps.takeWhile o.accepts ∧ calls = Segment.names (done.map Piece.segment) ∧ ∃ st', r.Answers st calls values st' := by
  cases h with
  | completes hdone h => exact ⟨(List.takeWhile_eq_self_iff.mpr hdone).symm, rfl, _, h⟩
  | rejects hs hdone h => exact ⟨(span_accepts hs hdone _ _).1.symm, rfl, _, h⟩
  | fails _ _ _ => exact absurd rfl (hr _)

/-- Under strict options, no malformed piece is done. -/
theorem countP_isMalformed (h : Course o r st ps done values calls result) (hs : o.strict = true) :
    done.countP Piece.isMalformed = 0 := by
  rw [List.countP_eq_zero]
  intro p hp
  simpa [Options.accepts, hs] using h.accepts p hp

/-- Where malformed references are copied, none is what a substitution ends with. -/
theorem rejection?_of_lenient (h : Course o r st ps done values calls result) (hs : o.strict = false) :
    rejection? result = none := by
  cases h with
  | completes _ _ => rfl
  | rejects hs' _ _ =>
    rw [hs] at hs'
    cases hs'
  | fails _ _ _ => rfl

end Course

/-- What a substitution does on its course. It asks for the names, each of which is counted; of the values, those are counted
that are none; of the pieces done, the doubled sigils and the malformed references are counted; and a rejection is counted by
its kind. Each malformed reference done is reported, and then the rejection. -/
theorem substitute_of_course {o : Options} {r : Resolver σ ε} {st : σ} {input : Text} {ps done : List Piece}
    {values : List (Option Text)} {calls : List Text} {result : Except (Failure ε) Text}
    (hps : pieces o.toForms input = ps) (h : Course o r st ps done values calls result) :
    (substitute o r st input).result = result ∧ (substitute o r st input).calls = calls ∧
      (substitute o r st input).tally =
        { substitute := 1
          resolve := calls.length
          noValue := values.countP Option.isNone
          escape := done.countP Piece.isEscape
          lenient := done.countP Piece.isMalformed } + (rejection? result).elim {} Error.tally ∧
      (substitute o r st input).notices =
        done.filterMap Piece.notice? ++ (rejection? result).toList.map Notice.rejected := by
  cases h with
  | completes hdone h =>
    have hrun := expand_of_answers 0 hdone h
    simp [substitute, hps, hrun, Run.completed, rejection?, Tally.add_eq, h.length_eq]
  | @rejects _ after m _ _ hs hdone h =>
    have hrun := expand_of_malformed 0 m after hs hdone h
    simp [substitute, hps, hrun, Run.before, Run.completed, Run.reject, rejection?, Tally.add_eq, h.length_eq, Except.map]
  | @fails _ after _ _ _ _ _ hdone h hask =>
    have hrun := expand_of_failure 0 after hdone h hask
    simp [substitute, hps, hrun, Run.before, Run.completed, rejection?, Tally.add_eq, h.length_eq, Except.map]

end Template
