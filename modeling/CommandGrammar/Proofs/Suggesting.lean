import CommandGrammar.Proofs.Gathering
import CommandGrammar.Proofs.Lowering

/-!
# What is offered for named arguments and for flags

Offers and values are read off one text in two ways: an offer looks at the text in lower case and goes by
the last space in it, a value looks at the words of the text as it stands, between any blanks.

For named arguments the two readings agree. Keys are identifiers, and those are lowered in one way wherever
they stand; so a pair of the text is a pair of its lower case, and the key of a bound value is never offered.
What stands behind the last space begins the offer, so it is no pair, and taking the offer up in its place
adds one pair to those of the text (`Named.scan_withLastWord`).

For flags they agree as far as spaces go. A flag is taken for typed where it stands between spaces, and is
found where it stands between any blanks. So a flag that another blank parts from its neighbours may be
offered again, and that is the only way it can happen.
-/

set_option autoImplicit false

namespace CommandGrammar

open Text

/-! ## The last word of a text -/

namespace Text

/-- The text with a word in the place of what stands behind its last space. -/
def withLastWord (text word : List Char) : List Char :=
  dropEndWhile (· != ' ') text ++ word

/-- Nothing grows together with what stands up to the last space of a text. -/
theorem words_upToLast (text more : List Char) :
    words (dropEndWhile (· != ' ') text ++ more) =
      words (dropEndWhile (· != ' ') text) ++ words more := by
  rcases dropEndWhile_cases (· != ' ') text with empty | ⟨front, c, space, ends⟩
  · rw [empty]
    rfl
  · have blank : isBlank c = true := by
      rw [bne_eq_false_iff_eq.mp space]
      exact isBlank_space
    rw [ends, List.append_assoc, List.singleton_append, words_append_cons blank,
      words_append_cons blank, List.append_assoc]
    rfl

theorem isBlank_of_eq_space (c : Char) (space : (c == ' ') = true) : isBlank c = true := by
  rw [beq_iff_eq.mp space]
  exact isBlank_space

end Text

/-! ## Named arguments -/

namespace Named

variable {options : Options} {typed word raw : List Char} {key offer : String} {value : Raw}

/-- A key is offered when its lower case is no key of the lowered text and continues its last word. -/
theorem mem_suggest_iff : offer ∈ suggest options typed ↔
    ∃ key ∈ Assoc.names options, keyText key = offer ∧
      lowercase key.toList ∉ (scan (lowercase typed)).map Prod.fst ∧
      lastPiece (· == ' ') (lowercase typed) <+: lowercase (keyText key).toList := by
  simp only [suggest, List.mem_filter, List.mem_map, List.isPrefixOf_iff_prefix,
    Bool.not_eq_true', List.contains_eq_mem, decide_eq_false_iff_not]
  constructor
  · rintro ⟨⟨key, ⟨declared, unused⟩, rfl⟩, begins⟩
    exact ⟨key, declared, rfl, unused, begins⟩
  · rintro ⟨key, declared, rfl, unused, begins⟩
    exact ⟨⟨key, ⟨declared, unused⟩, rfl⟩, begins⟩

theorem keyText_append (key : String) (raw : List Char) :
    (keyText key).toList ++ raw = pairText (key.toList, raw) := by
  simp [keyText, pairText]

/-- A pair is lowered part by part. -/
theorem exists_lowered_pair {lowered : List Char} {pair : List Char × List Char}
    (lowers : Lowered (pairText pair) lowered) :
    ∃ pair', lowered = pairText pair' ∧ Lowered pair.1 pair'.1 ∧ Lowered pair.2 pair'.2 := by
  obtain ⟨behind, rfl, rest⟩ := lowers.exists_cons (by decide) (by decide)
  obtain ⟨key, mark, rfl, key_, mark_⟩ := rest.exists_append
  obtain ⟨value, rfl, value_⟩ := mark_.exists_cons (by decide) (by decide)
  exact ⟨(key, value), rfl, key_, value_⟩

/-- The key of a pair in the text is, in lower case, a key of the lowered text. -/
theorem mem_keys_lowercase (identifier : IsIdentifier word) (listed : (word, raw) ∈ scan typed) :
    lowercase word ∈ (scan (lowercase typed)).map Prod.fst := by
  obtain ⟨token, isWord, read⟩ := List.mem_filterMap.mp listed
  have isPair := pair?_eq_some_iff.mp read
  obtain ⟨token', isWord', lowers⟩ := exists_of_mem_left (lowered_lowercase typed).words isWord
  rw [show token = pairText (word, raw) from isPair.token_eq] at lowers
  obtain ⟨⟨key, value⟩, rfl, key_, value_⟩ := exists_lowered_pair lowers
  obtain rfl : key = lowercase word := key_.eq_lowercase identifier.isAscii.not_mem_sigma
  have some_ : value ≠ [] := fun empty => isPair.value (value_.eq_nil_iff.mp empty)
  have read' : pair? (pairText (lowercase word, value)) = some (lowercase word, value) :=
    pair?_eq_some_iff.mpr ⟨identifier.lowercase, some_, rfl⟩
  exact List.mem_map.mpr ⟨_, List.mem_filterMap.mpr ⟨_, isWord', read'⟩, rfl⟩

/-- The lower case of a key that is an identifier, written as it is offered. -/
theorem lowercase_keyText (identifier : IsIdentifier key.toList) :
    lowercase (keyText key).toList = '-' :: (lowercase key.toList ++ [':']) := by
  have text : (keyText key).toList = '-' :: (key.toList ++ [':']) := by simp [keyText]
  have dash : LowersTo '-' ['-'] := .inl (by decide)
  have colon : LowersTo ':' [':'] := .inl (by decide)
  have lowers : Lowered (keyText key).toList ('-' :: (lowercase key.toList ++ [':'])) := by
    rw [text]
    exact .cons dash ((lowered_lowercase _).append (.cons colon .nil))
  refine (lowers.eq_lowercase ?_).symm
  simp [text, identifier.isAscii.not_mem_sigma]

/-- What begins `-key:` in lower case is no pair: nothing stands behind the colon. -/
theorem scan_of_begins {last lowered : List Char} (lowers : Lowered last lowered)
    (identifier : IsIdentifier word) (begins : lowered <+: '-' :: (word ++ [':'])) : scan last = [] := by
  have visible : ∀ c ∈ last, isBlank c = false := by
    intro c member
    by_contra blank
    have member' := begins.subset (lowers.mem_of_isBlank (by simpa using blank) member)
    simp only [List.mem_cons, List.mem_append, List.not_mem_nil, or_false] at member'
    rcases member' with rfl | inside | rfl
    · exact blank (by decide)
    · exact blank (identifier.2 c inside).lowered.1
    · exact blank (by decide)
  by_cases empty : last = []
  · rw [empty]
    rfl
  · rw [scan, words_of_isToken ⟨empty, visible⟩]
    cases read : pair? last with
    | none => simp [read]
    | some pair =>
      have isPair := pair?_eq_some_iff.mp read
      rw [show last = pairText pair from isPair.token_eq] at lowers
      obtain ⟨⟨key, value⟩, rfl, _, value_⟩ := exists_lowered_pair lowers
      have some_ : value ≠ [] := fun empty => isPair.value (value_.eq_nil_iff.mp empty)
      obtain ⟨rest, whole⟩ := (List.cons_prefix_cons.mp begins).2
      -- The colon of the pair is not the last character, so it would stand in the identifier.
      have inside : key ++ ':' :: (value ++ rest).dropLast = word := by
        have parts := congrArg List.dropLast whole
        rw [List.append_assoc, List.cons_append, List.dropLast_append_of_ne_nil (by simp),
          List.dropLast_cons_of_ne_nil (by simp [some_]), List.dropLast_concat] at parts
        exact parts
      have colon : ':' ∈ word := by simp [← inside]
      exact absurd colon (identifier.not_mem not_isIdentifierChar_colon)

/-- Taken up in the place of a last word that is no pair, an offer with a value adds one pair. -/
theorem scan_withLastWord (none_ : scan (lastPiece (· == ' ') typed) = [])
    (identifier : IsIdentifier word) (token : IsToken raw) :
    scan (withLastWord typed (pairText (word, raw))) = scan typed ++ [(word, raw)] := by
  have parts : dropEndWhile (· != ' ') typed ++ lastPiece (· == ' ') typed = typed :=
    dropEndWhile_append_lastPiece (· == ' ') typed
  have before : scan typed = scan (dropEndWhile (· != ' ') typed) := by
    unfold scan at none_
    conv => lhs; rw [← parts]
    rw [scan, words_upToLast, List.filterMap_append, none_, List.append_nil, scan]
  have isToken : IsToken (pairText (word, raw)) := by
    refine ⟨by simp [pairText], fun c member => ?_⟩
    simp only [pairText, List.mem_cons, List.mem_append] at member
    rcases member with rfl | inside | rfl | behind
    · decide
    · exact (identifier.2 c inside).lowered.1
    · decide
    · exact token.2 c behind
  have read : pair? (pairText (word, raw)) = some (word, raw) :=
    pair?_eq_some_iff.mpr ⟨identifier, token.1, rfl⟩
  rw [before, withLastWord, scan, words_upToLast, words_of_isToken isToken, List.filterMap_append, scan]
  simp [read]

/-- One more pair that is accepted binds its key and leaves the others alone. -/
theorem lookup_of_one_more {text longer : List Char}
    (more : scan longer = scan text ++ [(key.toList, raw)]) (accepts : Accepts options key raw value)
    (other : String) :
    (collect options longer).lookup other =
      if other = key then some value else (collect options text).lookup other := by
  have found : collect options longer = bind options (collect options text) (key.toList, raw) := by
    rw [collect, more, List.foldl_append]
    rfl
  rw [found, lookup_bind]
  by_cases own : other = key
  · rw [own, if_pos rfl, valueFor?_eq_some_iff.mpr ⟨rfl, accepts⟩, Option.some_or]
  · have apart : key.toList ≠ other.toList := fun same => own (String.toList_inj.mp same).symm
    rw [if_neg own, valueFor?, if_neg apart, Option.none_or]

/-- Every text that is offered is `-key:` for a declared key. If the key is an identifier, it has no value yet;
and whatever token its form accepts, the offer and this token in the place of the last word bind the key to
the value of the token and leave every other binding as it is. -/
theorem offers_bind_one_key (offered : offer ∈ suggest options typed) :
    ∃ key ∈ Assoc.names options, offer = keyText key ∧
      (IsIdentifier key.toList →
        (collect options typed).lookup key = none ∧
        ∀ raw value, IsToken raw → Accepts options key raw value → ∀ other,
          (collect options (withLastWord typed (offer.toList ++ raw))).lookup other =
            if other = key then some value else (collect options typed).lookup other) := by
  obtain ⟨key, declared, rfl, unused, begins⟩ := mem_suggest_iff.mp offered
  refine ⟨key, declared, rfl, fun identifier => ⟨?_, ?_⟩⟩
  · rw [Option.eq_none_iff_forall_not_mem]
    intro value bound
    obtain ⟨before, raw, after, split, _⟩ := ((gathered_collect options typed).lookup_iff key value).mp bound
    have listed : (key.toList, raw) ∈ scan typed := by simp [split]
    exact unused (mem_keys_lowercase identifier listed)
  · intro raw value token accepts other
    rw [lowercase_keyText identifier] at begins
    have lowers := (lowered_lowercase typed).lastPiece isBlank_of_eq_space
    have none_ := scan_of_begins lowers identifier.lowercase begins
    rw [keyText_append]
    exact lookup_of_one_more (scan_withLastWord none_ identifier token) accepts other

/-- A Kelvin sign in the last word is a `k` in lower case, so the word continues to a key that starts with
one. The amount in front of it stays bound. -/
theorem offers_bind_one_key_kind :
    let options := ("Kind", Form.word) :: Sample.amountAndWord
    let typed := "-amount:5\u3000-f -\u212A".toList
    let longer := "-amount:5\u3000-f -Kind:x".toList
    "-Kind:" ∈ suggest options typed ∧ (collect options typed).lookup "Kind" = none ∧
      withLastWord typed "-Kind:x".toList = longer ∧
      (collect options longer).lookup "Kind" = some (.text "x") ∧
      (collect options longer).lookup "amount" = some (.int 5) := by
  intro options typed longer
  have offered : "-Kind:" ∈ suggest options typed := by decide +kernel
  obtain ⟨key, _, same, binds⟩ := offers_bind_one_key offered
  obtain rfl : "Kind" = key := by
    have texts := congrArg String.toList same
    rw [keyText, String.toList_append, String.toList_append] at texts
    have appended : "Kind".toList ++ [':'] = key.toList ++ [':'] := (List.cons.inj texts).2
    exact String.toList_inj.mp (List.append_cancel_right appended)
  obtain ⟨unbound, adds⟩ := binds (isIdentifier_iff.mp (by decide))
  have accepts : Accepts options "Kind" "x".toList (.text "x") := value?_eq_some_iff.mp rfl
  have taken : withLastWord typed ("-Kind:".toList ++ "x".toList) = longer := by decide
  have one := adds "x".toList (.text "x") (by decide) accepts
  rw [taken] at one
  refine ⟨offered, unbound, taken, ?_, ?_⟩
  · rw [one, if_pos rfl]
  · rw [one, if_neg (by decide)]
    rfl

end Named

/-! ## Flags -/

namespace Flags

variable {allowed : List String} {typed token : List Char} {flag : String}

/-- The token stands between spaces in the text, in any letter case. -/
def StandsBetweenSpaces (typed token : List Char) : Prop :=
  ∃ piece ∈ splitOn (· == ' ') typed, lowercase piece = lowercase token

/-- An allowed flag is offered when its lower case stands nowhere between the spaces of the lowered text and
continues its last word. -/
theorem mem_suggest_iff : flag ∈ suggest allowed typed ↔ flag ∈ allowed ∧
    lowercase flag.toList ∉ splitOn (· == ' ') (lowercase typed) ∧
      lastPiece (· == ' ') (lowercase typed) <+: lowercase flag.toList := by
  simp only [suggest, List.mem_filter, Bool.and_eq_true, Bool.not_eq_true', List.contains_eq_mem,
    decide_eq_false_iff_not, List.isPrefixOf_iff_prefix]

theorem mem_collect_iff : flag ∈ collect allowed typed ↔
    flag ∈ allowed ∧ flag.toList ∈ words typed ∧ IsFlag flag.toList :=
  (gathered_collect allowed (words_eq_iff.mp rfl)).mem_iff flag

theorem IsFlag.isAscii (isFlag : IsFlag token) : IsAscii token := by
  obtain ⟨word, identifier, shape⟩ := isFlag
  intro c member
  have inside : c = '-' ∨ c ∈ word := by
    rcases shape with rfl | rfl
    · simpa using member
    · simpa using member
  rcases inside with rfl | inside
  · decide
  · exact identifier.isAscii c inside

/-- The pieces of a text tell whether the lower case of a flag is a piece of the lowered text. -/
theorem mem_splitOn_lowercase_iff (isFlag : IsFlag token) :
    lowercase token ∈ splitOn (· == ' ') (lowercase typed) ↔ StandsBetweenSpaces typed token := by
  have ascii := isFlag.isAscii.of_lowered (lowered_lowercase token)
  have pieces := (lowered_lowercase typed).splitOn isBlank_of_eq_space
  constructor
  · intro listed
    obtain ⟨piece, member, lowers⟩ := exists_of_mem_left (List.Forall₂.flip pieces) listed
    exact ⟨piece, member, (lowers.eq_iff ascii).mp rfl⟩
  · rintro ⟨piece, member, same⟩
    obtain ⟨lowered, listed, lowers⟩ := exists_of_mem_left pieces member
    rwa [← (lowers.eq_iff ascii).mpr same]

/-- The last word of a text tells whether that of the lowered text begins the lower case of a flag. -/
theorem lastPiece_lowercase_prefix_iff (isFlag : IsFlag token) :
    lastPiece (· == ' ') (lowercase typed) <+: lowercase token ↔
      lowercase (lastPiece (· == ' ') typed) <+: lowercase token :=
  ((lowered_lowercase typed).lastPiece isBlank_of_eq_space).prefix_iff
    (isFlag.isAscii.of_lowered (lowered_lowercase token))

/-- Where the only blanks of a text are spaces, its words stand between them. -/
theorem standsBetweenSpaces_of_words (spaced : ∀ c ∈ typed, isBlank c = true → c = ' ')
    (listed : token ∈ words typed) : StandsBetweenSpaces typed token := by
  have same : splitOn isBlank typed = splitOn (· == ' ') typed := by
    apply splitOn_congr
    intro c member
    rw [Bool.eq_iff_iff, beq_iff_eq]
    constructor
    · exact spaced c member
    · rintro rfl
      exact isBlank_space
  rw [words, same, List.mem_filter] at listed
  exact ⟨token, listed.1, rfl⟩

/-- No flag that is found is offered, exactly where every allowed flag among the words that continues the last
word stands between spaces as well. This is so in every text that has no blanks but spaces. -/
theorem offers_nothing_found_iff (allowed : List String) (typed : List Char) :
    ((∀ flag ∈ suggest allowed typed, flag ∉ collect allowed typed) ↔
      ∀ flag ∈ allowed, IsFlag flag.toList → flag.toList ∈ words typed →
        lowercase (lastPiece (· == ' ') typed) <+: lowercase flag.toList →
        StandsBetweenSpaces typed flag.toList) ∧
    ((∀ c ∈ typed, isBlank c = true → c = ' ') →
      ∀ flag ∈ suggest allowed typed, flag ∉ collect allowed typed) := by
  have exact_ : (∀ flag ∈ suggest allowed typed, flag ∉ collect allowed typed) ↔
      ∀ flag ∈ allowed, IsFlag flag.toList → flag.toList ∈ words typed →
        lowercase (lastPiece (· == ' ') typed) <+: lowercase flag.toList →
        StandsBetweenSpaces typed flag.toList := by
    constructor
    · intro apart flag listed isFlag isWord continues
      by_contra alone
      have unseen := (mem_splitOn_lowercase_iff isFlag).not.mpr alone
      have begins := (lastPiece_lowercase_prefix_iff isFlag).mpr continues
      exact apart flag (mem_suggest_iff.mpr ⟨listed, unseen, begins⟩)
        (mem_collect_iff.mpr ⟨listed, isWord, isFlag⟩)
    · intro stands flag offered found
      obtain ⟨listed, unseen, begins⟩ := mem_suggest_iff.mp offered
      obtain ⟨_, isWord, isFlag⟩ := mem_collect_iff.mp found
      have continues := (lastPiece_lowercase_prefix_iff isFlag).mp begins
      exact unseen ((mem_splitOn_lowercase_iff isFlag).mpr (stands flag listed isFlag isWord continues))
  refine ⟨exact_, fun spaced => exact_.mpr ?_⟩
  intro flag _ _ isWord _
  exact standsBetweenSpaces_of_words spaced isWord

/-- In front of a tab a flag is found, and offered again. -/
theorem offers_found_flag_tab :
    ¬ ∀ flag ∈ suggest ["-f"] "-f\t ".toList, flag ∉ collect ["-f"] "-f\t ".toList := by
  decide +kernel

end Flags

end CommandGrammar
