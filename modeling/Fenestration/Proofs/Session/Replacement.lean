import Fenestration.Session
import Mathlib.Data.List.Basic

/-!
# What a session holds

A command answers a question, puts a new pricing or project in place of the held one, or is refused.
What a session holds can therefore be read off its commands: the last pricing and the last project
that replaced another (`Session.follow_eq_last`).  The caller's table counts for nothing in what is
answered, so nobody notices a change of it (`Session.answered_without_changes`).
-/

namespace Fenestration

namespace Command

/-- The pricing that a command puts in place of the held one. -/
def pricing? : Command → Option (Pricing Binary64)
  | setPricing fields => (Pricing.ofArguments fields).toOption
  | standardPricing => some .standard
  | sourceTable table role => (Pricing.ofArguments [(role.argument, table)]).toOption
  | _ => none

def project? : Command → Option (Project Binary64)
  | load fields => (Project.load fields).toOption
  | _ => none

def lastPricing (commands : List Command) : Pricing Binary64 :=
  (commands.filterMap pricing?).getLastD .standard

def lastProject (commands : List Command) : Project Binary64 :=
  (commands.filterMap project?).getLastD .empty

-- A question is answered from the held pricing and project and changes nothing.
def isQuestion : Command → Bool
  | estimate => true
  | workOrder => true
  | document _ => true
  | roomRows _ => true
  | multiplier _ => true
  | hardwareCost _ => true
  | _ => false

def isSourceChange : Command → Bool
  | changeSource _ _ => true
  | _ => false

-- An attempt to write into the held pricing, into its tables or into the held project.
def isWrite : Command → Bool
  | assignPricing _ => true
  | assignProject _ => true
  | assignTable => true
  | _ => false

end Command

namespace Session

/-- A session after some commands. -/
def follow (session : Session) (commands : List Command) : Session :=
  commands.foldl after session

/-! ## One command -/

section Steps

variable {session other : Session} {command : Command}

-- A form that is filled in well makes the command succeed, and one with problems has it refused.
theorem after_of_ok {β : Type} (session : Session) (command : Command) {checked : Checked β}
    {form : Form} {answer : β → Reply × Session} {value : β}
    (hstep : session.step command = checked.asForm form >>= fun value => .ok (answer value))
    (h : checked = .ok value) :
    (session.step command).map Prod.fst = .ok (answer value).1 ∧
      session.after command = (answer value).2 := by
  rw [after, hstep, h]
  exact ⟨rfl, rfl⟩

theorem after_of_error {β : Type} (session : Session) (command : Command) {checked : Checked β}
    {form : Form} {answer : β → Reply × Session} {problems : List Problem}
    (hstep : session.step command = checked.asForm form >>= fun value => .ok (answer value))
    (h : checked = .error problems) :
    (session.step command).map Prod.fst = .error (.invalid form problems) ∧
      session.after command = session := by
  rw [after, hstep, h]
  exact ⟨rfl, rfl⟩

-- A command that is refused leaves the session as it was.
theorem after_of_refused {refusal : Refusal}
    (h : (session.step command).map Prod.fst = .error refusal) :
    session.after command = session := by
  cases hstep : session.step command with
  | error _ => rw [after, hstep]
  | ok answered =>
    rw [hstep] at h
    cases h

theorem refused_of_isWrite (session : Session) (h : command.isWrite = true) :
    ∃ refusal, (session.step command).map Prod.fst = .error refusal := by
  cases command with
  | assignPricing field => exact ⟨_, rfl⟩
  | assignProject field => exact ⟨_, rfl⟩
  | assignTable => exact ⟨_, rfl⟩
  | _ => cases h

theorem after_of_isQuestion (h : command.isQuestion = true) : session.after command = session := by
  cases command with
  | estimate => rfl
  | workOrder => rfl
  | document name =>
    rw [after, step]
    cases session.project.namedDocument session.pricing name <;> rfl
  | roomRows index =>
    rw [after, step]
    cases index.index with
    | error refusal => rfl
    | ok position =>
      dsimp only [bind, Except.bind]
      cases itemAt? session.project.rooms position <;> rfl
  | multiplier glazing =>
    rw [after, step]
    cases openGlazing glazing <;> rfl
  | hardwareCost pane =>
    rw [after, step]
    cases Pane.ofJson pane <;> rfl
  | _ => cases h

/-- A command puts its pricing and its project, if it has any, in place of what is held. -/
theorem after_holds (session : Session) (command : Command) :
    (session.after command).pricing = command.pricing?.getD session.pricing ∧
      (session.after command).project = command.project?.getD session.project := by
  cases command with
  | setPricing fields =>
    rw [after, step, Command.pricing?]
    cases Pricing.ofArguments fields <;> exact ⟨rfl, rfl⟩
  | sourceTable table role =>
    rw [after, step, Command.pricing?]
    cases Pricing.ofArguments [(role.argument, table)] <;> exact ⟨rfl, rfl⟩
  | load fields =>
    rw [after, step, Command.project?]
    cases Project.load fields <;> exact ⟨rfl, rfl⟩
  | standardPricing =>
    rw [after, step, Command.pricing?, Option.getD_some]
    exact ⟨rfl, rfl⟩
  | document _ | roomRows _ | multiplier _ | hardwareCost _ =>
    rw [after_of_isQuestion rfl]
    exact ⟨rfl, rfl⟩
  | _ => exact ⟨rfl, rfl⟩

-- What is asked for first does not look at the table.
theorem map_fst_bind_congr {β : Type} (asked : Except Refusal β)
    {f g : β → Except Refusal (Reply × Session)}
    (h : ∀ value, (f value).map Prod.fst = (g value).map Prod.fst) :
    (asked >>= f).map Prod.fst = (asked >>= g).map Prod.fst := by
  cases asked with
  | error refusal => rfl
  | ok value => exact h value

-- The table plays no part in what is answered.
theorem map_fst_step_congr (hpricing : session.pricing = other.pricing)
    (hproject : session.project = other.project) :
    (session.step command).map Prod.fst = (other.step command).map Prod.fst := by
  obtain ⟨pricing, project, table⟩ := session
  obtain ⟨_, _, _⟩ := other
  cases hpricing
  cases hproject
  cases command with
  | roomRows index =>
    refine map_fst_bind_congr index.index fun position => ?_
    cases itemAt? project.rooms position <;> rfl
  | setPricing _ | sourceTable _ _ => exact map_fst_bind_congr _ fun _ => rfl
  | load _ => exact map_fst_bind_congr _ fun _ => rfl
  | document _ => exact map_fst_bind_congr _ fun _ => rfl
  | multiplier _ => exact map_fst_bind_congr _ fun _ => rfl
  | hardwareCost _ => exact map_fst_bind_congr _ fun _ => rfl
  | _ => rfl

end Steps

/-! ## Runs -/

theorem follow_holds (session : Session) (commands : List Command) :
    (session.follow commands).pricing =
        (commands.filterMap Command.pricing?).getLastD session.pricing ∧
      (session.follow commands).project =
        (commands.filterMap Command.project?).getLastD session.project := by
  induction commands generalizing session with
  | nil => exact ⟨rfl, rfl⟩
  | cons command rest ih =>
    obtain ⟨hpricing, hproject⟩ := session.after_holds command
    obtain ⟨hrestPricing, hrestProject⟩ := ih (session.after command)
    rw [hpricing] at hrestPricing
    rw [hproject] at hrestProject
    constructor
    · refine hrestPricing.trans ?_
      cases h : command.pricing? with
      | none => rw [List.filterMap_cons_none h]; rfl
      | some pricing => rw [List.filterMap_cons_some h, List.getLastD_cons]; rfl
    · refine hrestProject.trans ?_
      cases h : command.project? with
      | none => rw [List.filterMap_cons_none h]; rfl
      | some project => rw [List.filterMap_cons_some h, List.getLastD_cons]; rfl

theorem follow_eq_last (commands : List Command) :
    (start.follow commands).pricing = Command.lastPricing commands ∧
      (start.follow commands).project = Command.lastProject commands :=
  follow_holds start commands

theorem after_of_isSourceChange (session : Session) {command : Command}
    (h : command.isSourceChange = true) :
    (session.after command).pricing = session.pricing ∧
      (session.after command).project = session.project := by
  cases command with
  | changeSource key value => exact ⟨rfl, rfl⟩
  | _ => cases h

/-- All other commands are answered as if no source table had ever been changed. -/
theorem answered_without_changes {session other : Session} (commands : List Command)
    (hpricing : session.pricing = other.pricing) (hproject : session.project = other.project) :
    (commands.zip (session.run commands)).filter (fun answered => !answered.1.isSourceChange) =
      (commands.filter fun command => !command.isSourceChange).zip
        (other.run (commands.filter fun command => !command.isSourceChange)) := by
  induction commands generalizing session other with
  | nil => rfl
  | cons command rest ih =>
    rw [run, List.zip_cons_cons]
    by_cases h : command.isSourceChange = true
    · obtain ⟨hafterPricing, hafterProject⟩ := session.after_of_isSourceChange h
      rw [List.filter_cons_of_neg (by simpa using h), List.filter_cons_of_neg (by simpa using h)]
      exact ih (hafterPricing.trans hpricing) (hafterProject.trans hproject)
    · rw [List.filter_cons_of_pos (by simpa using h), List.filter_cons_of_pos (by simpa using h),
        run, List.zip_cons_cons, map_fst_step_congr hpricing hproject]
      congr 1
      apply ih
      · rw [(session.after_holds command).1, (other.after_holds command).1, hpricing]
      · rw [(session.after_holds command).2, (other.after_holds command).2, hproject]

end Session

end Fenestration
