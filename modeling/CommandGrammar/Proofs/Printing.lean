import CommandGrammar.Proofs.Composing
import CommandGrammar.Proofs.Resolving
import CommandGrammar.Shell.Commands

/-!
# Callbacks that only print

A callback of the shell prints lines behind those that are there, and neither these lines nor what it
comes to depend on what was printed before (`Shell.Prints`). The callbacks are gone through as they are
written: what a command asks of its invocation comes from sources and mappers that only print, and so
does what it does with the answers. One handler is left out of this, the one that sleeps: it prints
nothing, and leaves work for later.
-/

set_option autoImplicit false

namespace CommandGrammar.Shell

variable {α β : Type}

/-- The computation comes to a good value and prints lines, whatever was printed before. -/
def Prints (good : α → Prop) (plain : Printing α) : Prop :=
  ∃ value lines, good value ∧ ∀ printed, plain.run printed = (value, printed ++ lines)

/-- The computation only prints. -/
def OnlyPrints (plain : Printing α) : Prop :=
  Prints (fun _ => True) plain

namespace Prints

variable {good good' : α → Prop} {plain : Printing α}

/-- A value is come to without a line. -/
theorem pure_ {value : α} (good_ : good value) : Prints good (pure value) :=
  ⟨value, [], good_, fun printed => by rw [List.append_nil]; rfl⟩

/-- What follows prints behind what comes before it. -/
theorem bind {next : α → Printing β} {after : β → Prop} (first : Prints good plain)
    (second : ∀ value, good value → Prints after (next value)) : Prints after (plain >>= next) := by
  obtain ⟨value, lines, good_, runs⟩ := first
  obtain ⟨value', lines', after_, runs'⟩ := second value good_
  refine ⟨value', lines ++ lines', after_, fun printed => ?_⟩
  rw [StateT.run_bind, runs]
  show (next value).run (printed ++ lines) = _
  rw [runs', List.append_assoc]

/-- Less may be said. -/
theorem imp (prints : Prints good plain) (less : ∀ value, good value → good' value) :
    Prints good' plain := by
  obtain ⟨value, lines, good_, runs⟩ := prints
  exact ⟨value, lines, less value good_, runs⟩

/-- Nothing need be said of the value. -/
theorem only (prints : Prints good plain) : OnlyPrints plain :=
  prints.imp fun _ _ => trivial

end Prints

namespace OnlyPrints

variable {plain : Printing α}

/-- A value is come to without a line. -/
theorem pure_ (value : α) : OnlyPrints (pure value) :=
  Prints.pure_ trivial

/-- A line is printed. -/
theorem line (line : String) : OnlyPrints (printLine line) :=
  ⟨(), [line], trivial, fun _ => rfl⟩

/-- What follows prints behind what comes before it. -/
theorem bind {next : α → Printing β} (first : OnlyPrints plain)
    (second : ∀ value, OnlyPrints (next value)) : OnlyPrints (plain >>= next) :=
  Prints.bind first fun value _ => second value

/-- Each member of a list is tried, and those that pass are kept. -/
theorem filterM {test : α → Printing Bool} (tests : ∀ member, OnlyPrints (test member))
    (members : List α) : OnlyPrints (members.filterM test) := by
  have kept : ∀ found, OnlyPrints (members.filterAuxM test found) := by
    induction members with
    | nil => exact fun found => .pure_ _
    | cons member rest ih => exact fun found => (tests member).bind fun passes => ih _
  exact (kept []).bind fun _ => .pure_ _

end OnlyPrints

/-! ## Invocations -/

/-- Whatever is asked of the invocation, and whatever its sender is told, lines are printed and nothing
else is done. -/
structure Quiet (context : Context) : Prop where
  tells : ∀ text, OnlyPrints (context.sender.tell text)
  resolves : ∀ id, OnlyPrints (context.resolve id)

namespace Quiet

variable {context : Context} (quiet : Quiet context)

include quiet

/-- The sender is told something. -/
theorem reply (text : String) : OnlyPrints (Shell.reply context text) :=
  (quiet.tells text).bind fun _ => .pure_ _

/-- A value that may be absent is asked for. -/
theorem getOptional (read : Value Extra → Option α) (id : String) :
    OnlyPrints (context.getOptional read id) :=
  (quiet.resolves id).bind fun _ => .pure_ _

/-- A value that must be there is asked for. -/
theorem get (read : Value Extra → Option α) (id : String) : OnlyPrints (context.get read id) := by
  refine (quiet.getOptional read id).bind fun value => ?_
  cases value with
  | none => exact .pure_ _
  | some value => exact .pure_ _

/-- One of some named values is asked for. -/
theorem namedOr (read : Raw → Option α) (id key : String) (default : α) :
    OnlyPrints (context.namedOr read id key default) :=
  ((quiet.getOptional Value.named? id).bind fun _ => .pure_ _).bind fun _ => .pure_ _

/-- Flags are asked for. -/
theorem flags (id : String) : OnlyPrints (context.flags id) :=
  (quiet.getOptional Value.flags? id).bind fun _ => .pure_ _

end Quiet

/-! ## Callbacks -/

/-- The mapper only prints. -/
def QuietMapper (mapper : Mapper Printing Kind Extra) : Prop :=
  ∀ context, Quiet context → OnlyPrints (mapper context)

/-- The source only prints, and so does the work that it leaves. -/
def QuietSource : Completion.Source Printing Kind Extra → Prop
  | .immediate offer => ∀ query, Quiet query.invocation → OnlyPrints (offer query)
  | .deferred _ work => ∀ query, Quiet query.invocation → OnlyPrints (work query).run

/-- The handler answers at once, and only prints. -/
def QuietHandler (body : Body Printing Kind Extra) : Prop :=
  ∃ answer, body = .direct answer ∧ ∀ context, Quiet context → OnlyPrints (answer context)

/-- The callbacks of commands that only print. What is required is a permission. -/
def quietParts : Parts Printing Kind Extra where
  requirement requirement :=
    ∃ permission, requirement = fun sender => pure (sender.permits permission)
  source := QuietSource
  handler _ body := QuietHandler body
  mapper := QuietMapper

/-- An argument with a mapper and a source of its own, which answers at once. -/
theorem quiet_composite {id : String} {form : Form} {mapper : Mapper Printing Kind Extra}
    {offer : Completion.Query Printing Kind Extra → Printing (List String)} {body : List Step}
    (maps : QuietMapper mapper) (offers : ∀ query, OnlyPrints (offer query))
    (quiet : Declaration.AllMadeOf quietParts body) :
    Declaration.AllMadeOf quietParts
      (Declaration.composite id form mapper (.immediate offer) body) :=
  ⟨maps, ⟨fun query _ => offers query, quiet⟩, trivial⟩

/-- Handlers that answer at once. -/
theorem quiet_onExecute {audience : Audience Kind}
    {answer : Context → Printing (Except CommandError Bool)} {steps : List Step}
    (prints : ∀ context, Quiet context → OnlyPrints (answer context))
    (quiet : Declaration.AllMadeOf quietParts steps) :
    Declaration.AllMadeOf quietParts (.onExecute audience answer :: steps) :=
  ⟨⟨answer, rfl, prints⟩, quiet⟩

/-- A mapper that works with the text of its argument. -/
theorem quietMapper_ofText {id : String}
    {work : Context → String → Printing (Option (Value Extra))}
    (prints : ∀ context text, Quiet context → OnlyPrints (work context text)) :
    QuietMapper (Mapper.ofText id work) := by
  intro context quiet
  unfold Mapper.ofText
  cases context.rawText? id with
  | none => exact .pure_ _
  | some text => exact prints context text quiet

/-! ## The steps of the commands -/

/-- Whom the sender may target is found without a line. -/
theorem quiet_selector (roster : Roster) (id : String) {accepts : EntityFilter Printing Kind Extra}
    (filters : ∀ context entity, OnlyPrints (accepts context entity)) {body : List Step}
    (quiet : Declaration.AllMadeOf quietParts body) :
    Declaration.AllMadeOf quietParts
      (Declaration.selectorArgument id roster.entities accepts body) := by
  refine quiet_composite (quietMapper_ofText fun context text _ => ?_) (fun query => ?_) quiet
  · show OnlyPrints (pure _ >>= _)
    rw [pure_bind]
    split
    · exact (filters _ _).bind fun _ => .pure_ _
    · exact .pure_ _
    · exact .pure_ _
  · show OnlyPrints (pure _ >>= _)
    rw [pure_bind]
    exact (OnlyPrints.filterM (filters query.invocation) _).bind fun _ => .pure_ _

theorem quiet_crate : Declaration.AllMadeOf quietParts crateSteps := by
  refine (quiet_composite (quietMapper_ofText fun _ _ _ => ?_) (fun _ => ?_) ?_).append ?_
  · exact (OnlyPrints.pure_ _).bind fun _ => .pure_ _
  · exact (OnlyPrints.pure_ _).bind fun _ => .pure_ _
  · refine quiet_onExecute (fun context quiet => (quiet.getOptional _ _).bind fun tier => ?_) trivial
    cases tier with
    | none => exact quiet.reply _
    | some tier => exact quiet.reply _
  · exact quiet_onExecute (fun _ quiet => quiet.reply _) trivial

/-- What the handlers of the travelling command do: they look up whom the sender travels to, and tell it. -/
def travel (before after : String) (context : Context) : Printing (Except CommandError Bool) := do
  match ← context.get participant? "target" with
  | .error error => return .error error
  | .ok target => reply context (before ++ target.name ++ after)

theorem quiet_teleport (roster : Roster) : Declaration.AllMadeOf quietParts (teleportSteps roster) := by
  have travels : ∀ before after context, Quiet context → OnlyPrints (travel before after context) := by
    intro before after context quiet
    refine (quiet.get _ _).bind fun target => ?_
    cases target with
    | error error => exact .pure_ _
    | ok target => exact quiet.reply _
  refine (quiet_selector roster _ (fun _ _ => .pure_ _) ?_).append ?_
  · exact quiet_onExecute (travels _ _) (quiet_onExecute (travels _ _) trivial)
  · exact quiet_onExecute (fun _ quiet => quiet.reply _) trivial

theorem quiet_spawn : Declaration.AllMadeOf quietParts spawnSteps := by
  refine quiet_composite (quietMapper_ofText fun _ _ _ => .pure_ _) (fun _ => .pure_ _) ?_
  refine quiet_onExecute (fun context quiet => ?_) trivial
  exact (quiet.namedOr _ _ _ _).bind fun _ => (quiet.namedOr _ _ _ _).bind fun _ =>
    (quiet.namedOr _ _ _ _).bind fun _ => quiet.reply _

theorem quiet_clear : Declaration.AllMadeOf quietParts clearSteps := by
  refine (quiet_composite (quietMapper_ofText fun _ _ _ => .pure_ _) (fun _ => .pure_ _) ?_).append ?_
  · refine quiet_onExecute (fun context quiet => (quiet.flags _).bind fun found => ?_) trivial
    dsimp only
    split
    · exact .pure_ _
    · exact quiet.reply _
  · exact quiet_onExecute (fun _ quiet => quiet.reply _) trivial

theorem quiet_message (roster : Roster) : Declaration.AllMadeOf quietParts (messageSteps roster) := by
  refine quiet_selector roster _ (fun _ _ => .pure_ _) ⟨quiet_onExecute (fun context quiet => ?_) trivial,
    trivial⟩
  refine (quiet.getOptional _ _).bind fun target => ?_
  cases target with
  | none => exact quiet.reply _
  | some target =>
    dsimp only
    split
    · exact .pure_ _
    · exact quiet.reply _

theorem quiet_admin (showIdentity : Nat → String) :
    Declaration.AllMadeOf quietParts (adminSteps showIdentity) := by
  refine ⟨⟨adminPermission, rfl⟩, quiet_onExecute (fun _ quiet => quiet.reply _) trivial, ?_, trivial⟩
  exact quiet_onExecute (fun _ quiet => quiet.reply _)
    (quiet_onExecute (fun _ quiet => quiet.reply _) trivial)

end CommandGrammar.Shell
