import CommandGrammar.Proofs.Accounts
import Mathlib.Logic.Relation

/-!
# Numbers tell builders and handlers apart

Calls that can be made number the builders and the handlers that they make in ascending order
(`Numbered`). So one call opens a builder, one call finishes it, and one call declares a handler
(`eq_of_key`), and a list of calls is split in one way at such a call (`split_at_key`). What a builder
has been handed down from the root of its line is therefore determined by the calls
(`Inherits.unique`), and it is handed down in two parts wherever the line is cut
(`HandedDown.through`).
-/

set_option autoImplicit false

namespace CommandGrammar

open Call (provisionsOn attachedTo registered)

variable {m : Type → Type} {κ ε : Type}

/-! ## Members of a list that have a key -/

section Key

variable {α β : Type} {key : α → Option β} {members before after before' after' : List α}
  {first second : α} {value : β}

/-- No member before one that has a key has the same key. -/
theorem ne_key_of_mem_before (nodup : ((before ++ first :: after).filterMap key).Nodup)
    (keyed : key first = some value) {other : α} (member : other ∈ before) :
    key other ≠ some value := by
  intro same
  rw [List.filterMap_append, List.filterMap_cons_some keyed] at nodup
  have apart := (List.nodup_append.mp nodup).2.2
  exact apart value (List.mem_filterMap.mpr ⟨other, member, same⟩) value List.mem_cons_self rfl

/-- A list is split in one way at a member that has a key. -/
theorem split_at_key (nodup : (members.filterMap key).Nodup)
    (split_ : members = before ++ first :: after) (split' : members = before' ++ second :: after')
    (keyed : key first = some value) (keyed' : key second = some value) :
    before = before' ∧ first = second ∧ after = after' := by
  have nodup' := nodup
  rw [split_] at nodup
  rw [split'] at nodup'
  rw [split_] at split'
  rcases List.append_eq_append_iff.mp split' with ⟨between, rfl, rest⟩ | ⟨between, rfl, rest⟩
  · cases between with
    | nil =>
      obtain ⟨rfl, rfl⟩ := List.cons.inj rest
      exact ⟨(List.append_nil _).symm, rfl, rfl⟩
    | cons next between =>
      obtain ⟨rfl, _⟩ := List.cons.inj rest
      have member : first ∈ before ++ first :: between := by simp
      exact absurd keyed (ne_key_of_mem_before nodup' keyed' member)
  · cases between with
    | nil =>
      obtain ⟨rfl, rfl⟩ := List.cons.inj rest
      exact ⟨List.append_nil _, rfl, rfl⟩
    | cons next between =>
      obtain ⟨rfl, _⟩ := List.cons.inj rest
      have member : second ∈ before' ++ second :: between := by simp
      exact absurd keyed' (ne_key_of_mem_before nodup keyed member)

theorem eq_of_key (nodup : (members.filterMap key).Nodup) (member : first ∈ members)
    (member' : second ∈ members) (keyed : key first = some value)
    (keyed' : key second = some value) : first = second := by
  obtain ⟨_, _, split_⟩ := List.append_of_mem member
  obtain ⟨_, _, split'⟩ := List.append_of_mem member'
  exact (split_at_key nodup split_ split' keyed keyed').2.1

/-- A key that is greater than all before it makes a longer ascending list. -/
theorem ascending_concat {key : α → Option Nat} {bound : Nat}
    (ascending : (members.filterMap key).Pairwise (· < ·))
    (below : ∀ number ∈ members.filterMap key, number < bound)
    (next : ∀ number, key first = some number → number = bound) :
    ((members ++ [first]).filterMap key).Pairwise (· < ·) := by
  rw [filterMap_concat]
  cases keyed : key first with
  | none =>
    rw [Option.toList_none, List.append_nil]
    exact ascending
  | some number =>
    rw [Option.toList_some, List.pairwise_append]
    refine ⟨ascending, List.pairwise_singleton _ _, fun earlier member last same => ?_⟩
    rw [List.mem_singleton.mp same, next number keyed]
    exact below earlier member

end Key

/-! ## The numbers of calls that can be made -/

/-- The calls number what they make. -/
structure Numbered (calls : List (Call m κ ε)) (bench : Bench m κ ε) : Prop where
  opens : (calls.filterMap Call.opens?).Pairwise (· < ·)
  opens_lt : ∀ id ∈ calls.filterMap Call.opens?, id < bench.opened
  serials : (calls.filterMap Call.serial?).Pairwise (· < ·)
  serials_lt : ∀ serial ∈ calls.filterMap Call.serial?, serial < bench.declared
  finishes : (calls.filterMap Call.finishes?).Nodup
  finished : ∀ id ∈ calls.filterMap Call.finishes?, bench.builders id = none ∧ id < bench.opened
  parent_lt : ∀ id parent pattern, Call.child id parent pattern ∈ calls → parent < id

section Numbered

variable {calls : List (Call m κ ε)} {bench next : Bench m κ ε} {call : Call m κ ε} {id : Nat}

/-- A call opens the builder with the next number, and no other. -/
theorem Bench.Steps.opens (steps : bench.Steps call next) (opens : call.opens? = some id) :
    id = bench.opened ∧ next.opened = bench.opened + 1 := by
  cases steps with
  | root =>
    cases opens
    exact ⟨rfl, rfl⟩
  | child _ =>
    cases opens
    exact ⟨rfl, rfl⟩
  | _ => cases opens

/-- A call declares the handler with the next number, and no other. -/
theorem Bench.Steps.declares {serial : Nat} (steps : bench.Steps call next)
    (declares : call.serial? = some serial) :
    serial = bench.declared ∧ next.declared = bench.declared + 1 := by
  cases steps with
  | @provide _ declared provision _ _ counted =>
    cases provision with
    | handle handler =>
      cases declares
      rw [Provision.countFrom] at counted
      split at counted
      next numbered =>
        cases counted
        exact ⟨numbered, rfl⟩
      next => cases counted
    | _ => cases declares
  | _ => cases declares

theorem Bench.Steps.declared_le (steps : bench.Steps call next) :
    bench.declared ≤ next.declared := by
  cases steps with
  | @provide _ declared provision _ _ counted =>
    show bench.declared ≤ declared
    cases provision with
    | handle handler =>
      rw [Provision.countFrom] at counted
      split at counted
      next =>
        cases counted
        exact Nat.le_succ _
      next => cases counted
    | _ =>
      cases counted
      exact Nat.le_refl _
  | _ => exact Nat.le_refl _

theorem forall_mem_filterMap_concat {α β : Type} {key : α → Option β} {members : List α} {last : α}
    {holds : β → Prop} (earlier : ∀ number ∈ members.filterMap key, holds number)
    (next : ∀ number, key last = some number → holds number) :
    ∀ number ∈ (members ++ [last]).filterMap key, holds number := by
  intro number member
  rw [filterMap_concat] at member
  rcases List.mem_append.mp member with before | new
  · exact earlier number before
  · exact next number (Option.mem_toList.mp new)

theorem numbered_empty : Numbered ([] : List (Call m κ ε)) Bench.empty where
  opens := .nil
  opens_lt := fun _ member => nomatch member
  serials := .nil
  serials_lt := fun _ member => nomatch member
  finishes := .nil
  finished := fun _ member => nomatch member
  parent_lt := fun _ _ _ member => nomatch member

/-- One more call takes the next numbers. -/
theorem Numbered.step (numbered : Numbered calls bench) (accounts : Accounts calls bench)
    (steps : bench.Steps call next) : Numbered (calls ++ [call]) next where
  opens := ascending_concat numbered.opens numbered.opens_lt fun _ opens => (steps.opens opens).1
  opens_lt := by
    refine forall_mem_filterMap_concat (fun id member => ?_) fun id opens => ?_
    · exact Nat.lt_of_lt_of_le (numbered.opens_lt id member) steps.opened_le
    · obtain ⟨rfl, more⟩ := steps.opens opens
      exact more ▸ Nat.lt_succ_self _
  serials := ascending_concat numbered.serials numbered.serials_lt
    fun _ declares => (steps.declares declares).1
  serials_lt := by
    refine forall_mem_filterMap_concat (fun serial member => ?_) fun serial declares => ?_
    · exact Nat.lt_of_lt_of_le (numbered.serials_lt serial member) steps.declared_le
    · obtain ⟨rfl, more⟩ := steps.declares declares
      exact more ▸ Nat.lt_succ_self _
  finishes := by
    rw [filterMap_concat]
    cases finishes : call.finishes? with
    | none =>
      rw [Option.toList_none, List.append_nil]
      exact numbered.finishes
    | some id =>
      rw [Option.toList_some]
      refine List.nodup_append.mpr ⟨numbered.finishes, List.pairwise_singleton _ _, ?_⟩
      rintro earlier member last new rfl
      -- A builder that was finished before is not at hand, so that it cannot be finished again.
      obtain ⟨⟨held, atHand⟩, _⟩ := steps.builders_of_finishes finishes
      rw [← List.mem_singleton.mp new, (numbered.finished earlier member).1] at atHand
      cases atHand
  finished := by
    refine forall_mem_filterMap_concat (fun id member => ?_) fun id finishes => ?_
    · obtain ⟨gone, old⟩ := numbered.finished id member
      exact ⟨steps.builders_eq_none gone old, Nat.lt_of_lt_of_le old steps.opened_le⟩
    · obtain ⟨⟨held, atHand⟩, gone⟩ := steps.builders_of_finishes finishes
      exact ⟨gone, Nat.lt_of_lt_of_le (accounts.held id held atHand).1 steps.opened_le⟩
  parent_lt := by
    intro id parent pattern member
    rcases List.mem_append.mp member with earlier | last
    · exact numbered.parent_lt id parent pattern earlier
    · cases List.mem_singleton.mp last
      cases steps with
      | child atParent => exact (accounts.held _ _ atParent).1

/-- Calls that can be made number what they make. -/
theorem numbered_of_run (made : Bench.empty.run calls = some bench) : Numbered calls bench := by
  have both : Accounts calls bench ∧ Numbered calls bench := by
    refine Bench.run_induction
      (motive := fun calls bench => Accounts calls bench ∧ Numbered calls bench)
      ⟨accounts_empty, numbered_empty⟩ ?_ made
    rintro calls bench call next ⟨accounts, numbered⟩ steps
    exact ⟨accounts.step steps, numbered.step accounts steps⟩
  exact both.2

theorem Numbered.nodup_opens (numbered : Numbered calls bench) :
    (calls.filterMap Call.opens?).Nodup :=
  numbered.opens.imp Nat.ne_of_lt

theorem Numbered.nodup_serials (numbered : Numbered calls bench) :
    (calls.filterMap Call.serial?).Nodup :=
  numbered.serials.imp Nat.ne_of_lt

/-- Before the call that opens a builder, no provision is made on it. -/
theorem provisionsOn_before_opens {before after : List (Call m κ ε)}
    (made : Bench.empty.run (before ++ call :: after) = some bench)
    (opens : call.opens? = some id) : provisionsOn before id = [] := by
  obtain ⟨middle, earlier, rest⟩ := Bench.run_append.mp made
  obtain ⟨following, steps, _⟩ := Bench.run_cons.mp rest
  have numbered := (steps.opens opens).1
  exact ((accounts_of_run earlier).unused id (Nat.le_of_eq numbered.symm)).1

end Numbered

/-! ## The line of a builder -/

/-- One builder is on the line of another: it is the other one, or that was opened as a child of it, or
as a child of such a child, and so on. -/
def Call.OnLine (calls : List (Call m κ ε)) : (upper lower : Nat) → Prop :=
  Relation.ReflTransGen fun parent id => ∃ pattern, Call.child id parent pattern ∈ calls

theorem Call.OnLine.append {calls : List (Call m κ ε)} {upper lower : Nat}
    (line : OnLine calls upper lower) (more : List (Call m κ ε)) :
    OnLine (calls ++ more) upper lower := by
  induction line with
  | refl => exact .refl
  | tail _ opened ih =>
    obtain ⟨pattern, made⟩ := opened
    exact ih.tail ⟨pattern, List.mem_append_left _ made⟩

theorem Call.OnLine.child {calls : List (Call m κ ε)} {upper parent id : Nat} {pattern : Pattern}
    (line : OnLine calls upper parent) (made : Call.child id parent pattern ∈ calls) :
    OnLine calls upper id :=
  line.tail ⟨pattern, made⟩

/-- The builders of a line were opened one after the other. -/
theorem Numbered.le_of_onLine {calls : List (Call m κ ε)} {bench : Bench m κ ε} {upper lower : Nat}
    (numbered : Numbered calls bench) (line : Call.OnLine calls upper lower) : upper ≤ lower := by
  induction line with
  | refl => exact Nat.le_refl _
  | tail _ opened ih =>
    obtain ⟨pattern, made⟩ := opened
    exact Nat.le_trans ih (Nat.le_of_lt (numbered.parent_lt _ _ _ made))

section HandedDown

variable {calls : List (Call m κ ε)} {top id root : Nat} {provisions : List (Provision m κ ε)}

theorem HandedDown.opens (down : HandedDown calls top id provisions) :
    (∃ call ∈ calls, call.opens? = some top) ∧ ∃ call ∈ calls, call.opens? = some id := by
  induction down with
  | @here before after call top opens =>
    have member : call ∈ before ++ call :: after := by simp
    exact ⟨⟨call, member, opens⟩, call, member, opens⟩
  | @child before after top parent id pattern _ _ ih =>
    obtain ⟨⟨call, member, opens⟩, _⟩ := ih
    exact ⟨⟨call, List.mem_append_left _ member, opens⟩, .child id parent pattern, by simp, rfl⟩

/-- How a builder comes to have been handed down something: it is the top of the line, or it was
opened as a child. -/
theorem HandedDown.cases (down : HandedDown calls top id provisions) :
    (id = top ∧ provisions = []) ∨
      ∃ before after parent pattern earlier, calls = before ++ .child id parent pattern :: after ∧
        HandedDown before top parent earlier ∧
        provisions = earlier ++ provisionsOn before parent := by
  cases down with
  | here _ => exact .inl ⟨rfl, rfl⟩
  | child before => exact .inr ⟨_, _, _, _, _, rfl, before, rfl⟩

/-- Where the line from a root is cut at a child, what is handed down is what the child has been
handed down and then what is handed down from the child on. -/
theorem HandedDown.through {before after : List (Call m κ ε)} {parent : Nat} {pattern : Pattern}
    {inherited later : List (Provision m κ ε)} (nodup : (calls.filterMap Call.opens?).Nodup)
    (down : HandedDown calls top id later)
    (split_ : calls = before ++ .child top parent pattern :: after)
    (above : HandedDown before root parent inherited) :
    HandedDown calls root id (inherited ++ provisionsOn before parent ++ later) := by
  -- The induction goes up the lower part of the line, and ends where its top was opened.
  induction down generalizing after with
  | @here earlier rest call top opens =>
    obtain ⟨rfl, rfl, rfl⟩ := split_at_key nodup rfl split_ opens rfl
    rw [List.append_nil]
    exact .child above
  | @child earlier rest top parent' id pattern' provisions inner ih =>
    obtain ⟨⟨call, member, opens⟩, _⟩ := inner.opens
    obtain ⟨first, second, rfl⟩ := List.append_of_mem member
    have whole : first ++ call :: second ++ .child id parent' pattern' :: rest =
        first ++ call :: (second ++ .child id parent' pattern' :: rest) := by simp
    obtain ⟨rfl, rfl, _⟩ := split_at_key nodup whole split_ opens rfl
    have nodup' : ((first ++ .child top parent pattern :: second).filterMap Call.opens?).Nodup := by
      rw [List.filterMap_append] at nodup
      exact (List.nodup_append.mp nodup).1
    rw [← List.append_assoc]
    exact .child (ih nodup' rfl)

/-- A builder that stands on a line from a root has been handed down one thing from there. -/
theorem HandedDown.unique {name name' : String} {root' : Nat}
    {provisions' : List (Provision m κ ε)} (nodup : (calls.filterMap Call.opens?).Nodup)
    (down : HandedDown calls root id provisions) (down' : HandedDown calls root' id provisions')
    (atRoot : Call.root root name ∈ calls) (atRoot' : Call.root root' name' ∈ calls) :
    provisions = provisions' := by
  -- Both go back to the one call that opened the builder, and from there to the same parent.
  induction down generalizing provisions' with
  | @here before after call root opens =>
    rcases down'.cases with ⟨_, none_⟩ | ⟨before', after', parent', pattern', _, split', _, _⟩
    · exact none_.symm
    · have member : Call.child root parent' pattern' ∈ before ++ call :: after := by
        rw [split']
        exact List.mem_append_right _ List.mem_cons_self
      cases eq_of_key nodup atRoot member rfl rfl
  | @child before after root parent id pattern provisions inner ih =>
    rcases down'.cases with ⟨rfl, _⟩ | ⟨before', after', parent', pattern', _, split', inner', rfl⟩
    · have member : Call.child id parent pattern ∈ before ++ .child id parent pattern :: after := by
        simp
      cases eq_of_key nodup atRoot' member rfl rfl
    · obtain ⟨rfl, same, rfl⟩ := split_at_key nodup rfl split' rfl rfl
      cases same
      -- Both roots were opened in time, so that they are among the calls before the child's.
      have earlier : ∀ {root : Nat} {name : String} {provisions : List (Provision m κ ε)},
          HandedDown before root parent provisions →
          Call.root root name ∈ before ++ .child id parent pattern :: after →
          Call.root root name ∈ before := by
        intro root name provisions down atRoot
        obtain ⟨⟨call, member, opens⟩, _⟩ := down.opens
        cases eq_of_key nodup (List.mem_append_left _ member) atRoot opens rfl
        exact member
      have nodup' : (before.filterMap Call.opens?).Nodup := by
        rw [List.filterMap_append] at nodup
        exact (List.nodup_append.mp nodup).1
      rw [ih nodup' inner' (earlier inner atRoot) (earlier inner' atRoot')]

/-- What a builder has been handed down is determined by the calls. -/
theorem Inherits.unique {provisions' : List (Provision m κ ε)}
    (nodup : (calls.filterMap Call.opens?).Nodup) (inherits : Inherits calls id provisions)
    (inherits' : Inherits calls id provisions') : provisions = provisions' := by
  obtain ⟨root, name, atRoot, down⟩ := inherits
  obtain ⟨root', name', atRoot', down'⟩ := inherits'
  exact down.unique nodup down' atRoot atRoot'

end HandedDown

end CommandGrammar
