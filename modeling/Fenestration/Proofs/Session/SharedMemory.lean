import Fenestration.Proofs.Session.Memory
import Fenestration.Proofs.Session.Replacement

/-!
# Sessions over shared memory

Tables can be written to in place, and a model and its maker may hold one table between them.  A
session of values leaves that out.  Here every table lies in a memory, a pricing refers to its
tables by views, and what keeps a model as it is stands in the state: the model is frozen, its views
are read-only and its tables are copies.  Were one of these missing, a write would go through, with
any effect.  Main statement: whatever the commands are, the session in memory answers and holds
what the session of values does (`MemorySession.held_until_replaced`).
-/

namespace Fenestration

open Json (Fields)

-- The standard pricing is built once, behind an empty table of the caller's.
def HeldPricing.standard : HeldPricing :=
  .build .standard 1

structure HeldProject where
  project : Project Binary64
  frozen : Bool

/-- A session whose tables lie in memory. -/
structure MemorySession where
  memory : Memory
  pricing : HeldPricing
  project : HeldProject
  source : Nat

namespace MemorySession

def start : MemorySession where
  memory := [[]] ++ Pricing.standard.cells
  pricing := .standard
  project := ⟨.empty, true⟩
  source := 0

/-- What the session holds, read from memory. -/
def shown (session : MemorySession) : Session where
  pricing := session.pricing.read session.memory
  project := session.project.project
  table := session.memory.cell session.source

/-- What following a command can do.  A refused pricing may leave tables behind that nothing refers
to, and a write that nothing stops may have any effect. -/
inductive Step (session : MemorySession) :
    Command → Except Refusal Reply → MemorySession → Prop
  | question {command : Command} (h : command.isQuestion = true) :
      Step session command ((session.shown.step command).map Prod.fst) session
  | setPricing {fields : Fields} {pricing : Pricing Binary64}
      (h : Pricing.ofArguments fields = .ok pricing) :
      Step session (.setPricing fields) (.ok (.pricing pricing))
        { session with
          memory := session.memory ++ pricing.cells
          pricing := .build pricing session.memory.length }
  | badPricing {fields : Fields} {problems : List Problem}
      (h : Pricing.ofArguments fields = .error problems) (leftover : Memory) :
      Step session (.setPricing fields) (.error (.invalid .pricing problems))
        { session with memory := session.memory ++ leftover }
  | standardPricing :
      Step session .standardPricing (.ok .nothing)
        { session with pricing := .standard }
  | load {fields : Fields} {project : Project Binary64} (h : Project.load fields = .ok project) :
      Step session (.load fields) (.ok (.project project))
        { session with project := ⟨project, true⟩ }
  | badBody {fields : Fields} {problems : List Problem}
      (h : Project.load fields = .error problems) :
      Step session (.load fields) (.error (.invalid .project problems)) session
  | assignFrozenPricing {field : String} (h : session.pricing.frozen = true) :
      Step session (.assignPricing field) (.error (.invalid .pricing [⟨[.field field], .frozen⟩]))
        session
  | assignPricing {field : String} (h : session.pricing.frozen = false) (pricing : HeldPricing) :
      Step session (.assignPricing field) (.ok .nothing) { session with pricing := pricing }
  | assignFrozenProject {field : String} (h : session.project.frozen = true) :
      Step session (.assignProject field) (.error (.invalid .project [⟨[.field field], .frozen⟩]))
        session
  | assignProject {field : String} (h : session.project.frozen = false) (project : HeldProject) :
      Step session (.assignProject field) (.ok .nothing) { session with project := project }
  | assignReadOnlyTable {view : View}
      (hview : view = session.pricing.glazingFactors ∨ view = session.pricing.hardwareCosts)
      (h : view.readOnly = true) :
      Step session .assignTable (.error .readOnlyTable) session
  | assignTable {view : View}
      (hview : view = session.pricing.glazingFactors ∨ view = session.pricing.hardwareCosts)
      (h : view.readOnly = false) (fields : Fields) :
      Step session .assignTable (.ok .nothing)
        { session with memory := session.memory.set view.address fields }
  -- The table is the caller's; the pricing is built over a copy of it.
  | sourceTable {table : Json} {role : PricingTable} {pricing : Pricing Binary64}
      (h : Pricing.ofArguments [(role.argument, table)] = .ok pricing) :
      Step session (.sourceTable table role) (.ok (.pricing pricing))
        { session with
          memory := session.memory ++ [table.fields] ++ pricing.cells
          pricing := .build pricing (session.memory ++ [table.fields]).length
          source := session.memory.length }
  | badTable {table : Json} {role : PricingTable} {problems : List Problem}
      (h : Pricing.ofArguments [(role.argument, table)] = .error problems)
      (leftover : Memory) :
      Step session (.sourceTable table role) (.error (.invalid .pricing problems))
        { session with memory := session.memory ++ leftover }
  | changeSource (key : String) (value : Json) :
      Step session (.changeSource key value) (.ok .nothing)
        { session with
          memory := session.memory.set session.source
            (Json.setField key value (session.memory.cell session.source)) }

/-- The outcomes of commands, one after another, and the session in the end. -/
inductive Run : MemorySession → List Command → List (Except Refusal Reply) → MemorySession → Prop
  | nil (session : MemorySession) : Run session [] [] session
  | cons {session next last : MemorySession} {command : Command} {rest : List Command}
      {outcome : Except Refusal Reply} {outcomes : List (Except Refusal Reply)}
      (hstep : Step session command outcome next) (hrest : Run next rest outcomes last) :
      Run session (command :: rest) (outcome :: outcomes) last

/-! ## Sound sessions -/

/-- Both models are frozen and no table of theirs can be written to; the standard pricing is worth
what it was worth at the start. -/
structure IsSound (session : MemorySession) : Prop where
  pricing : session.pricing.IsKept session.memory session.source
  project : session.project.frozen = true
  source : session.source < session.memory.length
  standard : HeldPricing.standard.IsKept session.memory session.source
  read_standard : HeldPricing.standard.read session.memory = .standard

theorem isSound_start : start.IsSound := by
  have hkept : HeldPricing.standard.IsKept start.memory start.source :=
    HeldPricing.isKept_build .standard [[]] Nat.zero_lt_one
  exact ⟨hkept, rfl, Nat.zero_lt_succ 2, hkept, HeldPricing.read_build .standard [[]]⟩

theorem shown_start : start.shown = Session.start := by
  have hread : HeldPricing.standard.read start.memory = .standard :=
    HeldPricing.read_build .standard [[]]
  unfold shown Session.start
  change Session.mk (HeldPricing.standard.read start.memory) _ _ = _
  rw [hread]
  rfl

namespace IsSound

variable {session : MemorySession} (h : session.IsSound)
include h

-- Tables that nothing refers to are not noticed.
theorem grow (more : Memory) : IsSound { session with memory := session.memory ++ more } where
  pricing := h.pricing.append more
  project := h.project
  source := by
    rw [List.length_append]
    exact Nat.lt_add_right _ h.source
  standard := h.standard.append more
  read_standard := (h.standard.read_append more).trans h.read_standard

theorem shown_grow (more : Memory) :
    shown { session with memory := session.memory ++ more } = session.shown := by
  unfold shown
  rw [h.pricing.read_append more, Memory.cell_append h.source]

theorem replace {held : HeldPricing} (hheld : held.IsKept session.memory session.source) :
    IsSound { session with pricing := held } :=
  { h with pricing := hheld }

-- The caller brings a table of their own.
theorem hand_in (fields : Fields) :
    IsSound { session with
      memory := session.memory ++ [fields], source := session.memory.length } where
  pricing := h.pricing.append_source [fields]
  project := h.project
  source := by
    rw [List.length_append]
    exact Nat.lt_succ_self _
  standard := h.standard.append_source [fields]
  read_standard := (h.standard.read_append [fields]).trans h.read_standard

theorem change (fields : Fields) :
    IsSound { session with memory := session.memory.set session.source fields } where
  pricing := h.pricing.set fields
  project := h.project
  source := by
    rw [List.length_set]
    exact h.source
  standard := h.standard.set fields
  read_standard := (h.standard.read_set fields).trans h.read_standard

end IsSound

/-! ## One step -/

/-- **One step.**  In a sound session a step ends in a sound session, and answers and changes what
it answers and changes in the session of values. -/
theorem Step.simulates {session next : MemorySession} {command : Command}
    {outcome : Except Refusal Reply} (hstep : Step session command outcome next)
    (h : session.IsSound) :
    next.IsSound ∧ (session.shown.step command).map Prod.fst = outcome ∧
      next.shown = session.shown.after command := by
  cases hstep with
  | question hquestion => exact ⟨h, rfl, (Session.after_of_isQuestion hquestion).symm⟩
  | @setPricing fields pricing hpricing =>
    obtain ⟨houtcome, hafter⟩ := session.shown.after_of_ok (.setPricing fields) rfl hpricing
    refine ⟨(h.grow pricing.cells).replace (HeldPricing.isKept_build pricing _ h.source),
      houtcome, ?_⟩
    rw [hafter, ← h.shown_grow pricing.cells]
    exact congrArg (Session.mk · _ _) (HeldPricing.read_build pricing session.memory)
  | @badPricing fields problems hproblems leftover =>
    obtain ⟨houtcome, hafter⟩ := session.shown.after_of_error (.setPricing fields) rfl hproblems
    exact ⟨h.grow leftover, houtcome, (h.shown_grow leftover).trans hafter.symm⟩
  | standardPricing =>
    refine ⟨h.replace h.standard, rfl, ?_⟩
    exact congrArg (Session.mk · _ _) h.read_standard
  | @load fields project hproject =>
    obtain ⟨houtcome, hafter⟩ := session.shown.after_of_ok (.load fields) rfl hproject
    exact ⟨{ h with project := rfl }, houtcome, hafter.symm⟩
  | @badBody fields problems hproblems =>
    obtain ⟨houtcome, hafter⟩ := session.shown.after_of_error (.load fields) rfl hproblems
    exact ⟨h, houtcome, hafter.symm⟩
  | assignFrozenPricing => exact ⟨h, rfl, rfl⟩
  | assignPricing hfrozen => exact absurd h.pricing.frozen (Bool.eq_false_iff.mp hfrozen)
  | assignFrozenProject => exact ⟨h, rfl, rfl⟩
  | assignProject hfrozen => exact absurd h.project (Bool.eq_false_iff.mp hfrozen)
  | assignReadOnlyTable => exact ⟨h, rfl, rfl⟩
  | assignTable hview hwritable =>
    rcases hview with rfl | rfl
    · exact absurd h.pricing.glazingFactors.readOnly (Bool.eq_false_iff.mp hwritable)
    · exact absurd h.pricing.hardwareCosts.readOnly (Bool.eq_false_iff.mp hwritable)
  | @sourceTable table role pricing hpricing =>
    have hhanded := h.hand_in table.fields
    have hcell : Memory.cell (session.memory ++ [table.fields] ++ pricing.cells)
        session.memory.length = table.fields :=
      (Memory.cell_append hhanded.source pricing.cells).trans
        (Memory.cell_append_length session.memory [table.fields] 0)
    obtain ⟨houtcome, hafter⟩ := session.shown.after_of_ok (.sourceTable table role) rfl hpricing
    refine ⟨(hhanded.grow pricing.cells).replace
      (HeldPricing.isKept_build pricing _ hhanded.source), houtcome, ?_⟩
    rw [hafter]
    dsimp only [shown]
    rw [HeldPricing.read_build, hcell]
  | @badTable table role problems hproblems leftover =>
    obtain ⟨houtcome, hafter⟩ :=
      session.shown.after_of_error (.sourceTable table role) rfl hproblems
    exact ⟨h.grow leftover, houtcome, (h.shown_grow leftover).trans hafter.symm⟩
  | changeSource key value =>
    refine ⟨h.change _, rfl, ?_⟩
    unfold shown
    rw [h.pricing.read_set, Memory.cell_set_self h.source]
    rfl

theorem exists_step (session : MemorySession) (command : Command) :
    ∃ outcome next, Step session command outcome next := by
  cases command with
  | setPricing fields =>
    cases h : Pricing.ofArguments fields with
    | ok pricing => exact ⟨_, _, .setPricing h⟩
    | error problems => exact ⟨_, _, .badPricing h []⟩
  | standardPricing => exact ⟨_, _, .standardPricing⟩
  | load fields =>
    cases h : Project.load fields with
    | ok project => exact ⟨_, _, .load h⟩
    | error problems => exact ⟨_, _, .badBody h⟩
  | assignPricing field =>
    cases h : session.pricing.frozen with
    | true => exact ⟨_, _, .assignFrozenPricing h⟩
    | false => exact ⟨_, _, .assignPricing h session.pricing⟩
  | assignProject field =>
    cases h : session.project.frozen with
    | true => exact ⟨_, _, .assignFrozenProject h⟩
    | false => exact ⟨_, _, .assignProject h session.project⟩
  | assignTable =>
    cases h : session.pricing.glazingFactors.readOnly with
    | true => exact ⟨_, _, .assignReadOnlyTable (.inl rfl) h⟩
    | false => exact ⟨_, _, .assignTable (.inl rfl) h []⟩
  | sourceTable table role =>
    cases h : Pricing.ofArguments [(role.argument, table)] with
    | ok pricing => exact ⟨_, _, .sourceTable h⟩
    | error problems => exact ⟨_, _, .badTable h []⟩
  | changeSource key value => exact ⟨_, _, .changeSource key value⟩
  | _ => exact ⟨_, _, .question rfl⟩

/-! ## Runs -/

theorem Run.simulates {session last : MemorySession} {commands : List Command}
    {outcomes : List (Except Refusal Reply)} (hrun : Run session commands outcomes last)
    (h : session.IsSound) :
    last.IsSound ∧ outcomes = session.shown.run commands ∧
      last.shown = session.shown.follow commands := by
  induction hrun with
  | nil => exact ⟨h, rfl, rfl⟩
  | cons hstep _ ih =>
    obtain ⟨hnext, houtcome, hshown⟩ := hstep.simulates h
    obtain ⟨hlast, houtcomes, hfollow⟩ := ih hnext
    rw [hshown] at houtcomes hfollow
    refine ⟨hlast, ?_, hfollow⟩
    rw [Session.run, houtcome, houtcomes]

/-- **Held models change only by being replaced.**  After any commands from the start the session in
memory holds what the session of values holds, and every command has been answered as there.  It
holds the last pricing and the last project that replaced another.  Whatever comes next, a step that
is refused changes nothing of what is held, and every write is refused.  All commands but the
changes of a source table are answered as if there had been no such change. -/
theorem held_until_replaced {commands : List Command} {outcomes : List (Except Refusal Reply)}
    {last : MemorySession} (hrun : Run start commands outcomes last) :
    (last.shown = Session.start.follow commands ∧ outcomes = Session.start.run commands) ∧
    (last.shown.pricing = Command.lastPricing commands ∧
      last.shown.project = Command.lastProject commands) ∧
    (∀ command outcome next, Step last command outcome next →
      (∀ refusal, outcome = .error refusal → next.shown = last.shown) ∧
      (command.isWrite = true → ∃ refusal, outcome = .error refusal)) ∧
    (∀ command, ∃ outcome next, Step last command outcome next) ∧
    (commands.zip outcomes).filter (fun answered => !answered.1.isSourceChange) =
      (commands.filter fun command => !command.isSourceChange).zip
        (Session.start.run (commands.filter fun command => !command.isSourceChange)) := by
  obtain ⟨hlast, houtcomes, hfollow⟩ := hrun.simulates isSound_start
  rw [shown_start] at houtcomes hfollow
  refine ⟨⟨hfollow, houtcomes⟩, ?_, fun command outcome next hstep => ?_, exists_step last, ?_⟩
  · rw [hfollow]
    exact Session.follow_eq_last commands
  · obtain ⟨-, rfl, hnext⟩ := hstep.simulates hlast
    refine ⟨fun refusal hrefusal => ?_, last.shown.refused_of_isWrite⟩
    rw [hnext, Session.after_of_refused hrefusal]
  · rw [houtcomes]
    exact Session.answered_without_changes commands rfl rfl

-- Both tables are changed after a pricing was built from them, and everything held is written to.
def interleaved : List Command :=
  [.sourceTable (.object [("awning", .real 90)]) .hardwareCosts,
    .changeSource "awning" (.integer 1), .hardwareCost (.text "awning"),
    .sourceTable (.object [("double_glazed", .real 2.5)]),
    .changeSource "double_glazed" (.integer 9), .assignTable, .assignPricing "markup_ratio",
    .setPricing [("markup_ratio", .text "dear")],
    .load [("existingFrame", .text "timber")], .assignProject "frame_kind",
    .multiplier (.text "double_glazed")]

theorem held_until_replaced_interleaved :
    ∃ outcomes last, Run start interleaved outcomes last ∧
      last.shown.pricing =
        { Pricing.standard with glazingFactors := [("double_glazed", 2.5)] } ∧
      last.shown.project = { Project.empty with frame := .timber } ∧
      outcomes[2]? = some (.ok (.amount 90)) := by
  have hhardware : Pricing.ofArguments
      [("fixed_cost_by_pane_kind", .object [("awning", .real 90)])] =
        .ok { Pricing.standard with hardwareCosts := [("awning", 90)] } := by
    decide +kernel
  have hsource : Pricing.ofArguments
      [("glazing_multipliers", .object [("double_glazed", .real 2.5)])] =
        .ok { Pricing.standard with glazingFactors := [("double_glazed", 2.5)] } := by
    decide +kernel
  have hdear : Pricing.ofArguments [("markup_ratio", .text "dear")] =
      .error [⟨[.field "markup_ratio"], .notNumeral⟩] := by
    decide +kernel
  have hload : Project.load [("existingFrame", .text "timber")] =
      .ok { Project.empty with frame := .timber } := by
    decide +kernel
  have hrun : Run start interleaved _ _ :=
    .cons (.sourceTable hhardware) <| .cons (.changeSource _ _) <| .cons (.question rfl) <|
    .cons (.sourceTable hsource) <| .cons (.changeSource _ _) <|
    .cons (.assignReadOnlyTable (.inl rfl) rfl) <| .cons (.assignFrozenPricing rfl) <|
    .cons (.badPricing hdear []) <| .cons (.load hload) <| .cons (.assignFrozenProject rfl) <|
    .cons (.question rfl) (.nil _)
  obtain ⟨-, ⟨hpricing, hproject⟩, -⟩ := held_until_replaced hrun
  refine ⟨_, _, hrun, hpricing.trans ?_, hproject.trans ?_, rfl⟩
  · decide +kernel
  · decide +kernel

end MemorySession

end Fenestration
