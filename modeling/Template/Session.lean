import Template.Substitute

/-!
# Sessions: steps that share a resolver, options, a tally and a collector

A session goes through a list of steps. The state of its resolver, its current options, its tally and its collector last from
step to step; each step is answered by a report, which holds the tally after the step and the notices that were collected
during it.
-/

namespace Template

variable {σ ε : Type}

/-- What lasts from step to step, for a resolver with states `σ`. -/
structure Session (σ : Type) where
  /-- The state of the resolver. -/
  state : σ
  /-- The current options. -/
  options : Options := {}
  /-- What was counted since the session began. -/
  tally : Tally := {}
  /-- Where notices go. -/
  collector : Collector := {}

/-- A step of a session. -/
inductive Step (σ : Type) where
  /-- Substitute in a template, under options of its own if it has them. -/
  | substitute (input : Text) (options : Option Options)
  /-- List the variables of a template, under options of its own if it has them. -/
  | names (input : Text) (options : Option Options)
  /-- Ask the resolver for a name. -/
  | resolve (name : Text)
  /-- Change the state of the resolver. -/
  | update (change : σ → σ)
  /-- Replace the current options, if options are given, and tell which are current. -/
  | options (options : Option Options)
  /-- Set the verbosity of the collector. -/
  | verbosity (level : Nat)
  /-- Collect notices from now on. -/
  | register
  /-- Collect no notices from now on. -/
  | deregister

/-- The step that gives a variable a value, or takes its value away. -/
def Step.assign {β : Type} (name : Text) (value : Option β) : Step (Std.HashMap Text β) :=
  .update (·.alter name fun _ => value)

/-- What a step answers. -/
inductive Answer (ε : Type) where
  /-- The outcome of a substitution, and the names asked for. -/
  | text (result : Except (Failure ε) Text) (calls : List Text)
  /-- The variables of a template. -/
  | names (result : Except Error (List Text))
  /-- The answer to one name. -/
  | value (result : Except ε (Option Text)) (name : Text)
  /-- The current options. -/
  | options (options : Options)
  /-- The step was done. -/
  | done

/-- What is observed of a step. -/
structure Report (ε : Type) where
  /-- Its answer. -/
  answer : Answer ε
  /-- The tally of the session after it. -/
  tally : Tally
  /-- The notices collected during it. -/
  notices : List Notice := []

namespace Session

/-- A step after which a session is `s`, and during which nothing is reported. -/
def quietly (s : Session σ) (answer : Answer ε) : Report ε × Session σ := ({ answer, tally := s.tally }, s)

/-- One step of a session: its report, and the session after it. -/
def step (r : Resolver σ ε) (s : Session σ) : Step σ → Report ε × Session σ
  | .substitute input options =>
    let run := Template.substitute (options.getD s.options) r s.state input
    let tally := s.tally + run.tally
    ({ answer := .text run.result run.calls, tally, notices := s.collector.collect run.notices },
      { s with state := run.state, tally })
  | .names input options =>
    let o := options.getD s.options
    let run := survey o input
    let tally := s.tally + run.tally
    ({ answer := .names (variableNames o input), tally, notices := s.collector.collect run.notices }, { s with tally })
  | .resolve name =>
    let (result, state) := r.ask s.state name
    quietly { s with state } (.value result name)
  | .update change => quietly { s with state := change s.state } .done
  | .options options => let o := options.getD s.options; quietly { s with options := o } (.options o)
  | .verbosity level => quietly { s with collector := { s.collector with verbosity := level } } .done
  | .register => quietly { s with collector := { s.collector with registered := true } } .done
  | .deregister => quietly { s with collector := { s.collector with registered := false } } .done

/-- The steps of a session, one after another: their reports, and the session after the last. -/
def run (r : Resolver σ ε) (s : Session σ) : List (Step σ) → List (Report ε) × Session σ
  | [] => ([], s)
  | step :: steps =>
    let (report, s) := s.step r step
    let (reports, s) := s.run r steps
    (report :: reports, s)

end Session

end Template
