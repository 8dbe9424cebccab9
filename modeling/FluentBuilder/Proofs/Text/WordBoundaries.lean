import FluentBuilder.Text.SnakeCase

/-!
# Snake case of a name with a suffix

The scan for words looks at two clusters, and at a third one for the last capital of several.  So a
suffix whose first capital ends the word in front of it could still move the boundary before the
last letter of the name.  It does not, because that boundary asks for a small letter: a suffix in
camel case is written by itself, behind an underscore.

* `clusters_of_ascii` — in ASCII texts each character is a cluster;
* `wordsFrom_append` — the scan of a longer list, split where a word ends;
* `snakeCase_append` — the name and its suffix are written one behind the other.
-/

namespace FluentBuilder.Text

/-! ### Clusters of ASCII texts -/

/-- A text of ASCII characters without the carriage return, which makes one cluster with the line
feed behind it. -/
def IsAscii (cs : List Char) : Prop :=
  ∀ c ∈ cs, c.toNat < 128 ∧ c ≠ '\r'

/-- A cluster ends behind each character of ASCII. -/
theorem clusterBreak_of_ascii {a b : Char} (ha : a.toNat < 128) (hreturn : a ≠ '\r')
    (hb : b.toNat < 128) (s : PictureState) : clusterBreak s a b = true := by
  have ha' : ¬ 128 ≤ a.toNat := by omega
  have hb' : ¬ 128 ≤ b.toNat := by omega
  simp [clusterBreak, hreturn, attaches, prepends, isPicture, ha', hb']

theorem clustersFrom_of_ascii {cs : List Char} (h : IsAscii cs) (s : PictureState) :
    clustersFrom s cs = cs.map fun c => [c] := by
  induction cs generalizing s with
  | nil => rfl
  | cons a rest ih =>
    cases rest with
    | nil => rfl
    | cons b more =>
      obtain ⟨ha, hrest⟩ := List.forall_mem_cons.1 h
      have hb := hrest b List.mem_cons_self
      rw [clustersFrom, ih hrest]
      simp [clusterBreak_of_ascii ha.1 ha.2 hb.1]

theorem clusters_of_ascii {cs : List Char} (h : IsAscii cs) : clusters cs = cs.map fun c => [c] :=
  clustersFrom_of_ascii h .outside

/-! ### Words of a longer text -/

theorem wordsFrom_ne_nil (word cs : List (List Char)) : wordsFrom word cs ≠ [] := by
  fun_induction wordsFrom word cs with
  | case1 => simp
  | case2 => simp
  | case3 => simp
  | case4 => simp
  | case5 _ _ _ _ _ _ ih => exact ih

theorem wordsFrom_separator {a : List Char} (h : isSeparator a = true)
    (word rest : List (List Char)) :
    wordsFrom word (a :: rest) = word.reverse :: wordsFrom [] rest := by
  cases rest <;> simp [wordsFrom, h]

theorem wordsFrom_cons_cons {a : List Char} (h : isSeparator a = false) (b : List Char)
    (word more : List (List Char)) :
    wordsFrom word (a :: b :: more) = if splitsBetween a b more.head? then
      (a :: word).reverse :: wordsFrom [] (b :: more) else wordsFrom (a :: word) (b :: more) := by
  rw [wordsFrom, h, if_neg Bool.false_ne_true]

/-- What follows two clusters makes no difference unless it is in lower case. -/
theorem splitsBetween_some {a b next : List Char} (h : isLowerCluster next = false) :
    splitsBetween a b (some next) = splitsBetween a b none := by
  simp [splitsBetween, h]

/-- **Words behind a boundary.**  Where a word ends between two clusters, of which the second is not
in lower case, the scan of all clusters is that of the clusters up to there and that of the
others. -/
theorem wordsFrom_append {front more : List (List Char)} {a b : List Char}
    (hsep : isSeparator a = false) (hends : splitsBetween a b more.head? = true)
    (hb : isLowerCluster b = false) (word : List (List Char)) :
    wordsFrom word (front ++ a :: b :: more)
      = wordsFrom word (front ++ [a]) ++ wordsFrom [] (b :: more) := by
  induction front generalizing word with
  | nil =>
    rw [List.nil_append, List.nil_append, wordsFrom_cons_cons hsep, if_pos hends]
    simp [wordsFrom, hsep]
  | cons x rest ih =>
    cases hx : isSeparator x with
    | true =>
      rw [List.cons_append, List.cons_append, wordsFrom_separator hx, wordsFrom_separator hx, ih,
        List.cons_append]
    | false =>
      -- the scan of the front looks at the end of its list where the other one looks at the second
      -- cluster
      obtain ⟨y, others, others', hshort, hlong, hlook⟩ : ∃ y others others',
          rest ++ [a] = y :: others ∧ rest ++ a :: b :: more = y :: others'
            ∧ splitsBetween x y others'.head? = splitsBetween x y others.head? := by
        cases rest with
        | nil => exact ⟨a, [], b :: more, rfl, rfl, splitsBetween_some hb⟩
        | cons y rest =>
          refine ⟨y, rest ++ [a], rest ++ a :: b :: more, rfl, rfl, ?_⟩
          cases rest <;> rfl
      rw [List.cons_append, List.cons_append, hshort, hlong, wordsFrom_cons_cons hx,
        wordsFrom_cons_cons hx, hlook, ← hshort, ← hlong, ih, ih]
      split <;> rfl

/-- **Snake case of a name with a suffix.**  A suffix at whose start a word ends, and which starts
with no small letter, is written by itself behind the name. -/
theorem snakeCase_append {name suffix : String} {front more : List Char} {a b : Char}
    (hname : IsAscii name.toList) (hsuffix : IsAscii suffix.toList)
    (hlast : name.toList = front ++ [a]) (hfirst : suffix.toList = b :: more)
    (hsep : isSeparator [a] = false)
    (hends : splitsBetween [a] [b] (more.head?.map fun c => [c]) = true)
    (hb : isLowerCluster [b] = false) :
    snakeCase (name ++ suffix) = snakeCase name ++ "_" ++ snakeCase suffix := by
  have hboth : IsAscii (name ++ suffix).toList := by
    intro c hc
    rw [String.toList_append, List.mem_append] at hc
    exact hc.elim (hname c) (hsuffix c)
  have hwords : words (name ++ suffix).toList = words name.toList ++ words suffix.toList := by
    unfold words
    rw [clusters_of_ascii hboth, clusters_of_ascii hname, clusters_of_ascii hsuffix,
      String.toList_append, hlast, hfirst, List.append_assoc, List.map_append]
    simp only [List.map_append, List.map_cons, List.map_nil, List.singleton_append]
    rw [wordsFrom_append hsep (by rwa [List.head?_map]) hb, List.map_append]
  have hne : ∀ cs : List Char, (words cs).map (fun w => String.ofList (lower w)) ≠ [] := by
    intro cs
    simp [words, wordsFrom_ne_nil]
  unfold snakeCase
  rw [hwords, List.map_append, String.intercalate_append_of_ne_nil (hne _) (hne _)]

end FluentBuilder.Text
