/-!
# Ascending lists of texts

A set of texts is a list in strictly ascending order, code point by code point. `insert` puts a text
into its place and leaves a list that has it already as it is; `ofList` sorts a list and drops
repetitions.
-/

set_option autoImplicit false

namespace CommandGrammar.Ascending

/-- Puts a text into an ascending list, unless it is there already. -/
def insert (text : String) : List String → List String
  | [] => [text]
  | first :: rest =>
    if text < first then text :: first :: rest
    else if text = first then first :: rest
    else first :: insert text rest

/-- The texts of a list in ascending order, each once. -/
def ofList (texts : List String) : List String :=
  texts.foldr insert []

/-- Puts texts into an ascending list, one after the other. -/
def insertAll (texts found : List String) : List String :=
  texts.foldl (fun found text => insert text found) found

/-- Putting a text into a list adds that text and nothing else. -/
theorem mem_insert {text member : String} {texts : List String} :
    member ∈ insert text texts ↔ member = text ∨ member ∈ texts := by
  induction texts with
  | nil => simp [insert]
  | cons first rest ih =>
    unfold insert
    split
    · exact List.mem_cons
    · split
      next same => simp [same]
      next => rw [List.mem_cons, ih, List.mem_cons, or_left_comm]

/-- Sorting keeps exactly the texts of the list. -/
theorem mem_ofList {member : String} {texts : List String} :
    member ∈ ofList texts ↔ member ∈ texts := by
  induction texts with
  | nil => simp [ofList]
  | cons text rest ih =>
    show member ∈ insert text (ofList rest) ↔ _
    rw [mem_insert, ih, List.mem_cons]

/-- Putting texts into a list adds those texts. -/
theorem mem_insertAll {member : String} {texts found : List String} :
    member ∈ insertAll texts found ↔ member ∈ texts ∨ member ∈ found := by
  unfold insertAll
  induction texts generalizing found with
  | nil => simp
  | cons text rest ih => rw [List.foldl_cons, ih, mem_insert, List.mem_cons, or_left_comm, or_assoc]

/-- An ascending list stays one when a text is put into it. -/
theorem pairwise_insert {texts : List String} (ascending : texts.Pairwise (· < ·)) (text : String) :
    (insert text texts).Pairwise (· < ·) := by
  induction texts with
  | nil => exact List.pairwise_singleton _ _
  | cons first rest ih =>
    obtain ⟨least, behind⟩ := List.pairwise_cons.mp ascending
    unfold insert
    split
    next before =>
      refine List.pairwise_cons.mpr ⟨fun other member => ?_, ascending⟩
      rcases List.mem_cons.mp member with rfl | later
      · exact before
      · exact String.lt_trans before (least other later)
    next notBefore =>
      split
      · exact ascending
      next other =>
        have after : first < text := Decidable.byContradiction fun notAfter =>
          other (String.le_antisymm (String.not_lt.mp notAfter) (String.not_lt.mp notBefore))
        refine List.pairwise_cons.mpr ⟨fun member listed => ?_, ih behind⟩
        rcases mem_insert.mp listed with rfl | later
        · exact after
        · exact least member later

/-- So it does when many are. -/
theorem pairwise_insertAll {found : List String} (ascending : found.Pairwise (· < ·))
    (texts : List String) : (insertAll texts found).Pairwise (· < ·) := by
  unfold insertAll
  induction texts generalizing found with
  | nil => exact ascending
  | cons text rest ih => exact ih (pairwise_insert ascending text)

/-- Sorting gives a strictly ascending list. -/
theorem pairwise_ofList (texts : List String) : (ofList texts).Pairwise (· < ·) := by
  induction texts with
  | nil => exact .nil
  | cons text rest ih => exact pairwise_insert ih text

/-- There is one ascending list of some texts. -/
theorem eq_of_mem_iff {first second : List String} (ascending : first.Pairwise (· < ·))
    (ascending' : second.Pairwise (· < ·)) (same : ∀ text, text ∈ first ↔ text ∈ second) :
    first = second := by
  have distinct : ∀ {texts : List String}, texts.Pairwise (· < ·) → texts.Nodup :=
    fun ascending => ascending.imp fun before equal => by
      subst equal
      exact String.lt_irrefl _ before
  have perm : first.Perm second :=
    (List.perm_ext_iff_of_nodup (distinct ascending) (distinct ascending')).mpr same
  exact perm.eq_of_pairwise (fun _ _ _ _ before after => absurd after (String.lt_asymm before))
    ascending ascending'

end CommandGrammar.Ascending
