import CommandGrammar.Proofs.Scanning

/-!
# What is gathered from pairs and flags

A declared key is bound to the value of the last pair of that key which its form accepts. A later pair that
is refused changes nothing, since a pair is judged before it is put in the place of another one; and of
several declarations of a key the first one judges all of its pairs. The flags that are gathered are a set.

So the order of tokens tells little: for the named values only the order of the pairs of one key among each
other, for the flags nothing, and the tokens of neither form are of no account.
-/

set_option autoImplicit false

namespace CommandGrammar

open Text

/-- The last value that is found in a list, and the member it belongs to. -/
theorem getLast?_filterMap_eq_some_iff {α β : Type} {find : α → Option β} {members : List α} {value : β} :
    (members.filterMap find).getLast? = some value ↔
      ∃ before member after, members = before ++ member :: after ∧ find member = some value ∧
        ∀ later ∈ after, find later = none := by
  rw [List.getLast?_filterMap, List.findSome?_eq_some_iff]
  constructor
  · rintro ⟨after, member, before, split, found, none_⟩
    refine ⟨before.reverse, member, after.reverse, ?_, found, ?_⟩
    · rw [← List.reverse_reverse members, split]
      simp
    · exact fun later listed => none_ later (List.mem_reverse.mp listed)
  · rintro ⟨before, member, after, rfl, found, none_⟩
    refine ⟨after.reverse, member, before.reverse, by simp, found, ?_⟩
    exact fun later listed => none_ later (List.mem_reverse.mp listed)

namespace Named

variable {options : Options} {key : String} {raw : List Char} {value : Raw}

/-- The key is declared with this form. Of several declarations of a key the first one counts. -/
def DeclaredAs (options : Options) (key : String) (form : Form) : Prop :=
  ∃ before after, options = before ++ (key, form) :: after ∧ ∀ earlier ∈ before, earlier.1 ≠ key

/-- The key is declared, and the form that it is declared with reads the value from the text. -/
def Accepts (options : Options) (key : String) (raw : List Char) (value : Raw) : Prop :=
  ∃ form, DeclaredAs options key form ∧ form.readToken raw = .ok value

/-- What has been found is gathered from the pairs. -/
structure Gathered (options : Options) (pairs : List (List Char × List Char))
    (found : List (String × Raw)) : Prop where
  /-- No key is bound twice. -/
  distinct : (Assoc.names found).Nodup
  /-- The keys are those of the pairs that are accepted. -/
  mem_names_iff : ∀ key, key ∈ Assoc.names found ↔
    ∃ raw value, (key.toList, raw) ∈ pairs ∧ Accepts options key raw value
  /-- A key is bound to the value of its last pair that is accepted. -/
  lookup_iff : ∀ key value, found.lookup key = some value ↔
    ∃ before raw after, pairs = before ++ (key.toList, raw) :: after ∧ Accepts options key raw value ∧
      ∀ later, (key.toList, later) ∈ after → ∀ other, ¬ Accepts options key later other

/-- The form of a key is looked up. -/
theorem lookup_eq_some_iff {form : Form} :
    options.lookup key = some form ↔ DeclaredAs options key form := by
  simp only [List.lookup_eq_some_iff, DeclaredAs, bne_iff_ne, ne_comm]

/-- A pair of the key has a value exactly when the form of the key accepts its text. -/
theorem value?_eq_some_iff :
    value? options (key.toList, raw) = some value ↔ Accepts options key raw value := by
  simp only [value?, Accepts, String.ofList_toList, Option.bind_eq_bind, Option.bind_eq_some_iff,
    lookup_eq_some_iff]
  refine exists_congr fun form => and_congr_right fun _ => ?_
  cases form.readToken raw <;> simp [Except.toOption]

/-- The value that a pair has for the key; a pair of another key has none. -/
def valueFor? (options : Options) (key : String) (pair : List Char × List Char) : Option Raw :=
  if pair.1 = key.toList then value? options pair else none

theorem valueFor?_eq_some_iff {word : List Char} :
    valueFor? options key (word, raw) = some value ↔
      word = key.toList ∧ Accepts options key raw value := by
  unfold valueFor?
  split
  next same =>
    change word = key.toList at same
    rw [same, value?_eq_some_iff, and_iff_right rfl]
  next other => exact iff_of_false (fun found => nomatch found) fun accepted => other accepted.1

/-- A pair that has a value for the key replaces the one that was found, and no other pair does. -/
theorem lookup_bind (options : Options) (found : List (String × Raw)) (pair : List Char × List Char)
    (key : String) :
    (bind options found pair).lookup key = (valueFor? options key pair).or (found.lookup key) := by
  have same_iff : pair.1 = key.toList ↔ key = String.ofList pair.1 := by
    constructor
    · intro same
      rw [same, String.ofList_toList]
    · rintro rfl
      rw [String.toList_ofList]
  unfold bind valueFor?
  cases value? options pair with
  | none => simp
  | some value =>
    rw [Assoc.lookup_put]
    by_cases same : pair.1 = key.toList
    · rw [if_pos (same_iff.mp same), if_pos same, Option.some_or]
    · rw [if_neg (same_iff.not.mp same), if_neg same, Option.none_or]

/-- The last value for the key replaces the one that was found. -/
theorem lookup_foldl_bind (options : Options) (pairs : List (List Char × List Char))
    (found : List (String × Raw)) (key : String) :
    (pairs.foldl (bind options) found).lookup key =
      ((pairs.filterMap (valueFor? options key)).getLast?).or (found.lookup key) := by
  induction pairs generalizing found with
  | nil => rfl
  | cons pair rest ih =>
    rw [List.foldl_cons, ih, lookup_bind, ← Option.or_assoc]
    congr 1
    cases own : valueFor? options key pair with
    | none => rw [List.filterMap_cons_none own, Option.or_none]
    | some value =>
      rw [List.filterMap_cons_some own, List.getLast?_cons]
      cases (rest.filterMap (valueFor? options key)).getLast? <;> rfl

/-- A key is bound to the last value that a pair of the text has for it. -/
theorem lookup_collect (options : Options) (text : List Char) (key : String) :
    (collect options text).lookup key = ((scan text).filterMap (valueFor? options key)).getLast? := by
  rw [collect, lookup_foldl_bind, List.lookup_nil, Option.or_none]

/-- Only the pairs of a key count for it. -/
theorem filterMap_valueFor? (options : Options) (key : String) (pairs : List (List Char × List Char)) :
    pairs.filterMap (valueFor? options key) =
      (pairs.filter fun pair => pair.1 = key.toList).filterMap (value? options) := by
  rw [List.filterMap_filter]
  refine List.filterMap_congr fun pair _ => ?_
  simp only [valueFor?, decide_eq_true_eq]

/-- No key is bound twice, however many pairs there are of it. -/
theorem nodup_foldl_bind (options : Options) (pairs : List (List Char × List Char))
    {found : List (String × Raw)} (distinct : (Assoc.names found).Nodup) :
    (Assoc.names (pairs.foldl (bind options) found)).Nodup := by
  induction pairs generalizing found with
  | nil => exact distinct
  | cons pair rest ih =>
    refine ih ?_
    unfold bind
    split
    · exact Assoc.nodup_names_put distinct _ _
    · exact distinct

/-- What is collected from a text is gathered from its pairs. -/
theorem gathered_collect (options : Options) (text : List Char) :
    Gathered options (scan text) (collect options text) := by
  refine ⟨nodup_foldl_bind options _ .nil, fun key => ?_, fun key value => ?_⟩
  · rw [Assoc.mem_names_iff, lookup_collect]
    constructor
    · rintro ⟨value, last⟩
      obtain ⟨⟨word, raw⟩, member, found⟩ := List.mem_filterMap.mp (List.mem_of_getLast? last)
      obtain ⟨rfl, accepts⟩ := valueFor?_eq_some_iff.mp found
      exact ⟨raw, value, member, accepts⟩
    · rintro ⟨raw, value, member, accepts⟩
      have found := valueFor?_eq_some_iff.mpr ⟨rfl, accepts⟩
      have some_ := List.ne_nil_of_mem (List.mem_filterMap.mpr ⟨_, member, found⟩)
      exact ⟨_, List.getLast?_eq_some_getLast some_⟩
  · rw [lookup_collect, getLast?_filterMap_eq_some_iff]
    constructor
    · rintro ⟨before, ⟨word, raw⟩, after, split, found, refused⟩
      obtain ⟨rfl, accepts⟩ := valueFor?_eq_some_iff.mp found
      refine ⟨before, raw, after, split, accepts, fun later member other accepts => ?_⟩
      have found' := valueFor?_eq_some_iff.mpr ⟨rfl, accepts⟩
      exact nomatch found'.symm.trans (refused _ member)
    · rintro ⟨before, raw, after, split, accepts, refused⟩
      refine ⟨before, (key.toList, raw), after, split, valueFor?_eq_some_iff.mpr ⟨rfl, accepts⟩, ?_⟩
      rintro ⟨word, later⟩ member
      refine Option.eq_none_iff_forall_not_mem.mpr fun other found => ?_
      obtain ⟨rfl, accepts⟩ := valueFor?_eq_some_iff.mp found
      exact refused later member other accepts

/-! ## Texts with the same pairs -/

/-- The token is a pair of the key. -/
def IsPairOf (key : List Char) (token : List Char) : Prop :=
  ∃ value, IsPair token (key, value)

/-- A token is a pair of the key exactly when it is read as one. -/
theorem isPairOf_iff {key token : List Char} :
    (pair? token).map Prod.fst = some key ↔ IsPairOf key token := by
  simp only [Option.map_eq_some_iff, Prod.exists, exists_and_right, exists_eq_right,
    pair?_eq_some_iff, IsPairOf]

instance (key : List Char) : DecidablePred (IsPairOf key) :=
  fun _ => decidable_of_iff _ isPairOf_iff

/-- For each key the two lists have the same tokens that are pairs of it, in the same order. Nothing is
said of the order of pairs of different keys, and nothing of the other tokens. -/
def SamePairs (tokens others : List (List Char)) : Prop :=
  ∀ key, tokens.filter (IsPairOf key) = others.filter (IsPairOf key)

section SamePairs

variable {token first second : List Char} {tokens others : List (List Char)}

theorem SamePairs.refl (tokens : List (List Char)) : SamePairs tokens tokens :=
  fun _ => rfl

theorem SamePairs.trans {more : List (List Char)} (same : SamePairs tokens others)
    (same' : SamePairs others more) : SamePairs tokens more :=
  fun key => (same key).trans (same' key)

/-- The same token in front makes no difference. -/
theorem SamePairs.cons (same : SamePairs tokens others) (token : List Char) :
    SamePairs (token :: tokens) (token :: others) := by
  intro key
  rw [List.filter_cons, List.filter_cons, same]

/-- A token that is not a pair may be put in front of one of the lists. -/
theorem SamePairs.other (same : SamePairs tokens others) (none_ : pair? token = none) :
    SamePairs tokens (token :: others) := by
  intro key
  have other : ¬ IsPairOf key token := by
    rw [← isPairOf_iff, none_]
    exact nofun
  rw [List.filter_cons_of_neg (by simpa using other), same]

/-- Two tokens that are not pairs of one key may change places. -/
theorem SamePairs.swap (apart : ∀ key, IsPairOf key first → ¬ IsPairOf key second)
    (tokens : List (List Char)) :
    SamePairs (first :: second :: tokens) (second :: first :: tokens) := by
  intro key
  by_cases own : IsPairOf key first
  · have other : ¬ IsPairOf key second := apart key own
    simp only [List.filter_cons, decide_eq_true own, decide_eq_false other]
    rfl
  · simp only [List.filter_cons, decide_eq_false own]
    rfl

end SamePairs

/-- The pairs of a key in a text are those that its tokens of that key are read as. -/
theorem filter_scan {tokens : List (List Char)} {text : List Char} (laidOut : LaidOut tokens text)
    (key : List Char) : ((scan text).filter fun pair => pair.1 = key) =
      (tokens.filter (IsPairOf key)).filterMap pair? := by
  rw [scan, laidOut.words_eq, List.filter_filterMap, List.filterMap_filter]
  refine List.filterMap_congr fun token _ => ?_
  by_cases own : IsPairOf key token
  · obtain ⟨value, isPair⟩ := own
    rw [pair?_eq_some_iff.mpr isPair, if_pos (decide_eq_true ⟨value, isPair⟩)]
    simp
  · rw [if_neg (by simpa using own), Option.filter_eq_none_iff]
    rintro ⟨word, value⟩ read same
    have isPair := pair?_eq_some_iff.mp read
    exact own ⟨value, of_decide_eq_true same ▸ isPair⟩

/-- What is collected depends on the pairs of each key among each other. -/
theorem SamePairs.lookup_collect {tokens others : List (List Char)} {text text' : List Char}
    (same : SamePairs tokens others) (laidOut : LaidOut tokens text) (laidOut' : LaidOut others text')
    (options : Options) (key : String) :
    (collect options text).lookup key = (collect options text').lookup key := by
  rw [Named.lookup_collect, Named.lookup_collect, filterMap_valueFor?, filterMap_valueFor?,
    filter_scan laidOut, filter_scan laidOut', same]

end Named

namespace Flags

/-- What has been found are the allowed flags among the tokens, each of them once. -/
structure Gathered (allowed : List String) (tokens : List (List Char)) (found : List String) : Prop where
  ascending : found.Pairwise (· < ·)
  mem_iff : ∀ flag, flag ∈ found ↔ flag ∈ allowed ∧ flag.toList ∈ tokens ∧ IsFlag flag.toList

/-- The two lists have the same tokens that are flags, in any order and any number. -/
def SameFlags (tokens others : List (List Char)) : Prop :=
  ∀ token, IsFlag token → (token ∈ tokens ↔ token ∈ others)

instance : DecidablePred IsFlag :=
  fun _ => decidable_of_iff _ isFlag_iff

variable {allowed : List String} {tokens others : List (List Char)} {text : List Char}

/-- Only the tokens of the two lists have to be looked at. -/
theorem sameFlags_iff : SameFlags tokens others ↔
    ∀ token ∈ tokens ++ others, IsFlag token → (token ∈ tokens ↔ token ∈ others) := by
  refine ⟨fun same token _ => same token, fun same token isFlag => ?_⟩
  by_cases listed : token ∈ tokens ++ others
  · exact same token listed isFlag
  · simp only [List.mem_append, not_or] at listed
    exact iff_of_false listed.1 listed.2

instance : Decidable (SameFlags tokens others) :=
  decidable_of_iff _ sameFlags_iff.symm

/-- What is collected from a text is gathered from its tokens. -/
theorem gathered_collect (allowed : List String) (laidOut : LaidOut tokens text) :
    Gathered allowed tokens (collect allowed text) := by
  refine ⟨Ascending.pairwise_ofList _, fun flag => ?_⟩
  have scanned : (∃ token ∈ scan text, String.ofList token = flag) ↔
      flag.toList ∈ tokens ∧ IsFlag flag.toList := by
    rw [scan, laidOut.words_eq]
    simp only [List.mem_filter, isFlag_iff]
    constructor
    · rintro ⟨token, listed, rfl⟩
      rwa [String.toList_ofList]
    · exact fun listed => ⟨flag.toList, listed, String.ofList_toList⟩
  rw [collect, Ascending.mem_ofList, List.mem_filter, List.mem_map, scanned, List.contains_iff_mem,
    and_comm]

/-- There is one list of the allowed flags among some tokens. -/
theorem Gathered.eq_of_sameFlags {found found' : List String} (gathered : Gathered allowed tokens found)
    (gathered' : Gathered allowed others found') (same : SameFlags tokens others) : found = found' := by
  refine Ascending.eq_of_mem_iff gathered.ascending gathered'.ascending fun flag => ?_
  rw [gathered.mem_iff, gathered'.mem_iff]
  exact and_congr_right fun _ => and_congr_left fun flag => same _ flag

end Flags

/-- Whatever the text, a declared key is bound to the value of its last pair that the first form declared
for it accepts, and to nothing where there is no such pair; and the flags that are found are the allowed ones
among the tokens. So two texts give the same values if they have the same pairs of each key in the same order,
and the same flags if they have the same flags at all, whatever blanks and whatever other tokens there are. -/
theorem gathered_in_any_order (options : Named.Options) (allowed : List String)
    {tokens : List (List Char)} {text : List Char} (laidOut : LaidOut tokens text) :
    Named.Gathered options (Named.scan text) (Named.collect options text) ∧
      Flags.Gathered allowed tokens (Flags.collect allowed text) ∧
      ∀ others text', LaidOut others text' →
        (Named.SamePairs tokens others → ∀ key,
          (Named.collect options text).lookup key = (Named.collect options text').lookup key) ∧
        (Flags.SameFlags tokens others →
          Flags.collect allowed text = Flags.collect allowed text') := by
  refine ⟨Named.gathered_collect options text, Flags.gathered_collect allowed laidOut, ?_⟩
  intro others text' laidOut'
  constructor
  · intro same key
    exact same.lookup_collect laidOut laidOut' options key
  · intro same
    exact (Flags.gathered_collect allowed laidOut).eq_of_sameFlags
      (Flags.gathered_collect allowed laidOut') same

/-! ## An amount and a word -/

namespace Sample

/-- A whole number from one on, declared a second time as a word, and a word. -/
def amountAndWord : Named.Options :=
  [("amount", .integerFrom 1), ("word", .word), ("amount", .word)]

/-- Two amounts with a word between them; the second amount is too low. -/
def amountFirst : List (List Char) :=
  ["-amount:5", "-word:x", "-f", "-amount:0", "--loud"].map String.toList

/-- The word in front of the amounts, one token that says nothing, and one flag given twice. -/
def wordFirst : List (List Char) :=
  ["stray", "-word:x", "-amount:5", "-f", "-amount:0", "--loud", "-f"].map String.toList

end Sample

/-- The amount that is too low does not replace the good one, in either order of the tokens, and a flag
that is given twice is found once. -/
theorem gathered_in_any_order_swapped :
    let text := "-amount:5 -word:x -f  -amount:0 --loud".toList
    let text' := "\tstray -word:x\u3000-amount:5 -f -amount:0 --loud -f".toList
    LaidOut Sample.amountFirst text ∧ LaidOut Sample.wordFirst text' ∧
      Named.SamePairs Sample.amountFirst Sample.wordFirst ∧
      Flags.SameFlags Sample.amountFirst Sample.wordFirst ∧
      (Named.collect Sample.amountAndWord text').lookup "amount" = some (.int 5) ∧
      Flags.collect ["--silent", "-f"] text' = ["-f"] := by
  intro text text'
  have laidOut : LaidOut Sample.amountFirst text := words_eq_iff.mp (by decide)
  have laidOut' : LaidOut Sample.wordFirst text' := words_eq_iff.mp (by decide)
  obtain ⟨_, _, other⟩ := gathered_in_any_order Sample.amountAndWord ["--silent", "-f"] laidOut
  obtain ⟨pairs, flags⟩ := other _ _ laidOut'
  have apart : ∀ key, Named.IsPairOf key "-amount:5".toList → ¬ Named.IsPairOf key "-word:x".toList := by
    intro key amount word
    have same := (Named.isPairOf_iff.mpr amount).trans (Named.isPairOf_iff.mpr word).symm
    exact absurd same (by decide)
  have samePairs : Named.SamePairs Sample.amountFirst Sample.wordFirst := by
    refine (Named.SamePairs.swap apart _).trans (Named.SamePairs.other ?_ (by decide))
    exact ((((((Named.SamePairs.refl []).other (by decide)).cons _).cons _).cons _).cons _).cons _
  refine ⟨laidOut, laidOut', samePairs, by decide, ?_, ?_⟩
  · rw [← pairs samePairs]
    rfl
  · rw [← flags (by decide)]
    decide

end CommandGrammar
