import FluentBuilder.Proofs.Code.Consumption
import FluentBuilder.Proofs.Code.LexedText
import FluentBuilder.Code.Source

/-!
# Following a rule

A rule of the grammar looks at the head of the input again and again, and takes one of two branches
each time.  The lemmas here follow one branch at a time, so the reading of given tokens is the chain
of the tests that it passes.

* `otherwise`, `chosen`, with their forms for words and operators — one branch of a choice;
* `isPathWord`, `atWord_eq_false` — a word at the head of the input fails the tests for reserved
  words;
* `endsAt` — what may follow a phrase without becoming part of it.
-/

namespace FluentBuilder.Code

variable {α β : Type} {p q : Parser β} {input rest : Tokens}

/-! ### Branches -/

theorem bind_of_eq_some {p : Parser α} {f : α → Parser β} {a : α} (h : p input = some (a, rest)) :
    (p >>= f) input = f a rest := by
  show (p input).bind (fun r => f r.1 r.2) = f a rest
  rw [h]
  rfl

theorem look_of_not {test : Tokens → Bool} (h : test input = false) :
    look test input = some (false, input) := by
  show some (test input, input) = some (false, input)
  rw [h]

theorem otherwise {test : Tokens → Bool} (h : test input = false) :
    (look test >>= fun b => if b = true then p else q) input = q input := by
  show (if test input = true then p else q : Parser β) input = q input
  rw [h]
  rfl

theorem chosen {test : Tokens → Bool} (h : test input = true) :
    (look test >>= fun b => if b = true then p else q) input = p input := by
  show (if test input = true then p else q : Parser β) input = p input
  rw [h]
  rfl

theorem otherwise_and {test : Tokens → Bool} {c : Bool} (h : test input = false) :
    (look test >>= fun b => if (c && b) = true then p else q) input = q input := by
  show (if (c && test input) = true then p else q : Parser β) input = q input
  rw [h, Bool.and_false]
  rfl

theorem chosen_and {test : Tokens → Bool} (h : test input = true) :
    (look test >>= fun b => if (true && b) = true then p else q) input = p input :=
  chosen h

theorem keyword?_of_not {name : String} (h : atWord name input = false) :
    keyword? name input = some (false, input) :=
  otherwise h

theorem keyword?_of_word (name : String) (rest : Tokens) :
    keyword? name (word name :: rest) = some (true, rest) := by
  refine (chosen ?_).trans rfl
  show (some name == some name) = true
  exact beq_self_eq_true _

theorem keyword_of_word (name : String) (rest : Tokens) :
    keyword name (word name :: rest) = some ((), rest) := by
  have h : atWord name (word name :: rest) = true := beq_self_eq_true (some name)
  show (if atWord name (word name :: rest) = true then some ((), word name :: rest)
    else none).bind _ = _
  rw [h]
  rfl

theorem punct?_of_not {operator : String} (h : atPunct operator input = false) :
    punct? operator input = some (false, input) :=
  otherwise h

theorem punct?_of_at {operator : String} (h : atPunct operator input = true) :
    punct? operator input = some (true, input.drop operator.length) :=
  chosen h

theorem punct_of_at {operator : String} (h : atPunct operator input = true) :
    punct operator input = some ((), input.drop operator.length) := by
  show (if atPunct operator input = true then some ((), input) else none).bind _ = _
  rw [h]
  rfl

theorem otherwise_keyword {name : String} (h : atWord name input = false) :
    (keyword? name >>= fun b => if b = true then p else q) input = q input :=
  bind_of_eq_some (keyword?_of_not h)

theorem chosen_keyword (name : String) (rest : Tokens) :
    (keyword? name >>= fun b => if b = true then p else q) (word name :: rest) = p rest :=
  bind_of_eq_some (keyword?_of_word name rest)

theorem otherwise_punct {operator : String} (h : atPunct operator input = false) :
    (punct? operator >>= fun b => if b = true then p else q) input = q input :=
  bind_of_eq_some (punct?_of_not h)

theorem chosen_punct {operator : String} (h : atPunct operator input = true) :
    (punct? operator >>= fun b => if b = true then p else q) input = p
    (input.drop operator.length) :=
  bind_of_eq_some (punct?_of_at h)

theorem expect_of {test : Tokens → Bool} (h : test input = true) :
    expect test input = some ((), input) := by
  unfold expect
  rw [h]
  rfl

theorem inside_of {p : Parser α} {delimiter : Delimiter} {inner : Tokens} {a : α}
    (h : p inner = some (a, [])) :
    inside delimiter p (.group delimiter inner :: rest) = some (a, rest) :=
  inside_eq_some_iff.2 ⟨inner, rfl, h⟩

theorem withTokens_of {p : Parser α} {a : α} (h : p input = some (a, rest)) :
    withTokens p input = some ((a, input.take (input.length - rest.length)), rest) := by
  unfold withTokens
  rw [h]

theorem repeatWhile_of_not {test : Tokens → Bool} {p : Parser α} (h : test input = false) :
    repeatWhile test p input = some ([], input) :=
  otherwise h

/-! ### Words at the head of the input -/

/-- Whether a word can be the first name of a path. -/
def isPathWord (name : String) : Bool :=
  !isKeyword name || ["self", "Self", "super", "crate"].contains name

theorem isPathWord_of_not_keyword {name : String} (h : isKeyword name = false) :
    isPathWord name = true := by
  unfold isPathWord
  rw [h]
  rfl

theorem atWord_eq_false {s k : String} (hs : isPathWord s = true) (hk : isPathWord k = false)
    {rest : Tokens} :
    atWord k (word s :: rest) = false := by
  show (some s == some k) = false
  rw [beq_eq_false_iff_ne]
  rintro h
  cases h
  rw [hs] at hk
  cases hk

theorem atOneOf_eq_false {s : String} {names : List String} (hs : isPathWord s = true)
    (hnames : ∀ k ∈ names, isPathWord k = false) : atOneOf names (word s :: rest) = false := by
  show names.contains s = false
  rw [← Bool.not_eq_true, List.contains_iff_mem]
  intro hmem
  rw [hnames s hmem] at hs
  cases hs

/-- A name that is not reserved is none of the reserved words. -/
theorem atWord_of_not_keyword {s k : String} (hs : isKeyword s = false) (hk : isKeyword k = true)
    {rest : Tokens} :
    atWord k (word s :: rest) = false := by
  show (some s == some k) = false
  rw [beq_eq_false_iff_ne]
  rintro h
  cases h
  rw [hs] at hk
  cases hk

theorem atOneOf_of_not_keyword {s : String} {names : List String} (hs : isKeyword s = false)
    (hnames : ∀ k ∈ names, isKeyword k = true) : atOneOf names (word s :: rest) = false := by
  show names.contains s = false
  rw [← Bool.not_eq_true, List.contains_iff_mem]
  intro hmem
  rw [hnames s hmem] at hs
  cases hs

theorem atIdentifier_or_atPathKeyword {s : String} (hs : isPathWord s = true) (rest : Tokens) :
    (atIdentifier (word s :: rest) || atPathKeyword (word s :: rest)) = true :=
  hs

theorem atIdentifier_of_not_keyword {s : String} (hs : isKeyword s = false) :
    atIdentifier (word s :: rest) = true := by
  show (!isKeyword s) = true
  rw [hs]
  rfl

theorem identifier_of_not_keyword {s : String} (hs : isKeyword s = false) :
    identifier (word s :: rest) = some (s, rest) :=
  identifier_eq_some_iff.2 ⟨rfl, hs⟩

theorem atLiteral_word_eq_false {s : String} (hs : isPathWord s = true) :
    atLiteral (word s :: rest) = false := by
  have hne : ∀ k, isPathWord k = false → (s == k) = false := by
    intro k hk
    rw [beq_eq_false_iff_ne]
    rintro rfl
    rw [hs] at hk
    cases hk
  show (if (s == "true" || s == "false") = true then some (s, rest) else none).isSome = false
  rw [hne "true" (by decide), hne "false" (by decide)]
  rfl

/-! ### Operators at the head of the input -/

theorem startsOperator_of_ne {c d : Char} (h : c ≠ d) (cs : List Char) (joint : Bool) :
    startsOperator (c :: cs) (.leaf (.punct d joint) :: rest) = false := by
  have hbeq : (c == d) = false := beq_eq_false_iff_ne.2 h
  unfold startsOperator
  split
  · next heq => cases heq
  · next heq heq' =>
    cases heq
    cases heq'
    exact hbeq
  · next heq heq' =>
    cases heq
    cases heq'
    rw [hbeq]
    rfl
  · rfl

/-! ### What may follow a phrase -/

/-- Whether the input ends, or goes on with one of the given characters or, if so marked, with a
group in braces. -/
def endsAt (chars : List Char) (braces : Bool) : Tokens → Bool
  | [] => true
  | .leaf (.punct c _) :: _ => chars.contains c
  | .group delimiter _ :: _ => braces && delimiter == .brace
  | _ => false

theorem startsOperator_of_endsAt {chars : List Char} {braces : Bool}
    (h : endsAt chars braces input = true) {c : Char} (hc : c ∉ chars) (cs : List Char) :
    startsOperator (c :: cs) input = false := by
  unfold endsAt at h
  split at h
  · cases cs <;> rfl
  · next d joint rest =>
    refine startsOperator_of_ne ?_ cs joint
    rintro rfl
    exact hc (List.contains_iff_mem.1 h)
  · cases cs <;> rfl
  · cases h

theorem headWord?_of_endsAt {chars : List Char} {braces : Bool}
    (h : endsAt chars braces input = true) :
    headWord? input = none := by
  unfold endsAt at h
  split at h
  · rfl
  · rfl
  · rfl
  · cases h

theorem atWord_of_endsAt {chars : List Char} {braces : Bool} (h : endsAt chars braces input = true)
    (name : String) :
    atWord name input = false := by
  unfold atWord
  rw [headWord?_of_endsAt h]
  rfl

theorem atGroup_of_endsAt {chars : List Char} {braces : Bool} (h : endsAt chars braces input = true)
    {delimiter : Delimiter} (hdelimiter : delimiter = .brace → braces = false) :
    atGroup delimiter input = false := by
  unfold endsAt at h
  split at h
  · rfl
  · rfl
  · next d inner rest =>
    obtain ⟨hbraces, hd⟩ := Bool.and_eq_true_iff.1 h
    obtain rfl := eq_of_beq hd
    show (Delimiter.brace == delimiter) = false
    rw [beq_eq_false_iff_ne]
    rintro rfl
    rw [hdelimiter rfl] at hbraces
    cases hbraces
  · cases h

end FluentBuilder.Code
