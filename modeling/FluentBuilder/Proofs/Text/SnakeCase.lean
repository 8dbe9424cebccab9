import FluentBuilder.Text.SnakeCase

/-!
# Slashes of a snake-cased name

Snake case cuts a name into words, writes the words in lower case and joins them with underscores.
None of this makes a slash or drops one:

* `slash_mem_lowerChar` — no other character has a slash in its lower case, by a look at the tables;
* `mem_of_mem_words` — the words have only characters of the name;
* `slash_not_mem_snakeCase` — a name without slashes has none in snake case;
* `slash_mem_snakeCase` — a name with slashes has some in snake case.
-/

namespace FluentBuilder.Text

/-! ### Lower case -/

/-- A slash is the code point that a number stands for only when the number is that of the slash. -/
theorem toNat_eq_of_ofNat_eq_slash {n : Nat} (h : Char.ofNat n = '/') : n = 47 := by
  by_cases hvalid : n.isValidChar
  · have hnat : (Char.ofNat n).toNat = n := by
      unfold Char.ofNat
      rw [dif_pos hvalid]
      rfl
    rw [h] at hnat
    exact hnat.symm
  · unfold Char.ofNat at h
    rw [dif_neg hvalid] at h
    exact absurd h (by decide)

/-- No run of lower-case letters passes over the slash. -/
theorem lowerRuns_skip_slash :
    ∀ r ∈ lowerRuns, ¬ ((r.1 : Int) ≤ 47 - r.2.2.2 ∧ 47 - r.2.2.2 ≤ (r.2.1 : Int)) := by
  decide +kernel

theorem lowerExpansions_skip_slash : ∀ e ∈ lowerExpansions, '/' ∉ e.2.map Char.ofNat := by
  decide +kernel

/-- **Only the slash has a slash in its lower case.** -/
theorem slash_mem_lowerChar {c : Char} (h : '/' ∈ lowerChar c) : c = '/' := by
  unfold lowerChar mapCase runOffset? at h
  split at h
  · next hascii =>
    split at h
    · next hupper =>
      have hnat := toNat_eq_of_ofNat_eq_slash (List.mem_singleton.1 h).symm
      have hletter : 65 ≤ c.toNat := of_decide_eq_true (Bool.and_eq_true_iff.1 hupper).1
      omega
    · exact (List.mem_singleton.1 h).symm
  · split at h
    · next e he => exact absurd h (lowerExpansions_skip_slash e (List.mem_of_find?_eq_some he))
    · split at h
      · next d hd =>
        obtain ⟨r, hr, rfl⟩ := Option.map_eq_some_iff.1 hd
        have hin := List.find?_some hr
        simp only [Bool.and_eq_true, decide_eq_true_eq] at hin
        have hnat := toNat_eq_of_ofNat_eq_slash (List.mem_singleton.1 h).symm
        rw [Int.ofNat_eq_natCast] at hnat
        refine absurd ?_ (lowerRuns_skip_slash r (List.mem_of_find?_eq_some hr))
        omega
      · exact (List.mem_singleton.1 h).symm

theorem slash_mem_lowerFrom {before cs : List Char} (h : '/' ∈ lowerFrom before cs) : '/' ∈ cs := by
  induction cs generalizing before with
  | nil => exact h
  | cons c rest ih =>
    rcases List.mem_append.1 h with hhere | hrest
    · split at hhere
      · split at hhere <;> exact absurd hhere (by decide)
      · rw [slash_mem_lowerChar hhere]
        exact List.mem_cons_self
    · exact List.mem_cons_of_mem c (ih hrest)

/-! ### Words -/

/-- The clusters of the words are clusters of the text. -/
theorem mem_of_mem_wordsFrom {word cs : List (List Char)} {w : List (List Char)} {g : List Char}
    (hw : w ∈ wordsFrom word cs) (hg : g ∈ w) : g ∈ word ∨ g ∈ cs := by
  fun_induction wordsFrom word cs with
  | case1 word =>
    rw [List.mem_singleton.1 hw] at hg
    exact .inl (List.mem_reverse.1 hg)
  | case2 word a rest hsep ih =>
    rcases List.mem_cons.1 hw with rfl | hw
    · exact .inl (List.mem_reverse.1 hg)
    · exact .inr (List.mem_cons_of_mem a ((ih hw).resolve_left List.not_mem_nil))
  | case3 word a hsep =>
    rw [List.mem_singleton.1 hw] at hg
    rcases List.mem_cons.1 (List.mem_reverse.1 hg) with rfl | hg
    · exact .inr List.mem_cons_self
    · exact .inl hg
  | case4 word a hsep b more hsplit ih =>
    rcases List.mem_cons.1 hw with rfl | hw
    · rcases List.mem_cons.1 (List.mem_reverse.1 hg) with rfl | hg
      · exact .inr List.mem_cons_self
      · exact .inl hg
    · exact .inr (List.mem_cons_of_mem a ((ih hw).resolve_left List.not_mem_nil))
  | case5 word a hsep b more hsplit ih =>
    rcases ih hw with hg | hg
    · rcases List.mem_cons.1 hg with rfl | hg
      · exact .inr List.mem_cons_self
      · exact .inl hg
    · exact .inr (List.mem_cons_of_mem a hg)

/-- The words of a name have only characters of the name. -/
theorem mem_of_mem_words {name w : List Char} {c : Char} (hw : w ∈ words name) (hc : c ∈ w) :
    c ∈ name := by
  obtain ⟨gs, hgs, rfl⟩ := List.mem_map.1 hw
  obtain ⟨g, hg, hc⟩ := List.mem_flatten.1 hc
  have hcluster : g ∈ clusters name := (mem_of_mem_wordsFrom hgs hg).resolve_left List.not_mem_nil
  rw [← flatten_clusters name]
  exact List.mem_flatten.2 ⟨g, hcluster, hc⟩

/-! ### Joined words -/

/-- A character of joined texts stands between them or in one of them. -/
theorem mem_intercalate {s : String} {parts : List String} {c : Char}
    (h : c ∈ (s.intercalate parts).toList) :
    c ∈ s.toList ∨ ∃ part ∈ parts, c ∈ part.toList := by
  induction parts with
  | nil => exact absurd h List.not_mem_nil
  | cons part rest ih =>
    by_cases hrest : rest = []
    · subst hrest
      exact .inr ⟨part, List.mem_cons_self, h⟩
    · rw [String.intercalate_cons_of_ne_nil hrest, String.toList_append, String.toList_append,
        List.mem_append, List.mem_append] at h
      rcases h with (hpart | hs) | hmore
      · exact .inr ⟨part, List.mem_cons_self, hpart⟩
      · exact .inl hs
      · rcases ih hmore with hs | ⟨other, hother, hmem⟩
        · exact .inl hs
        · exact .inr ⟨other, List.mem_cons_of_mem part hother, hmem⟩

/-- **A name without slashes has none in snake case.** -/
theorem slash_not_mem_snakeCase {name : String} (h : '/' ∉ name.toList) :
    '/' ∉ (snakeCase name).toList := by
  intro hmem
  rcases mem_intercalate hmem with hbetween | ⟨part, hpart, hmem⟩
  · exact absurd hbetween (by decide)
  · obtain ⟨w, hw, rfl⟩ := List.mem_map.1 hpart
    rw [String.toList_ofList] at hmem
    exact h (mem_of_mem_words hw (slash_mem_lowerFrom hmem))

/-! ### Slashes stay -/

theorem slash_mem_lowerFrom_of_mem {before cs : List Char} (h : '/' ∈ cs) :
    '/' ∈ lowerFrom before cs := by
  induction cs generalizing before with
  | nil => cases h
  | cons c rest ih =>
    refine List.mem_append.2 ?_
    rcases List.mem_cons.1 h with rfl | hrest
    · rw [if_neg (by decide)]
      exact .inl (by decide)
    · exact .inr (ih hrest)

/-- A cluster that does not separate words is in one of them. -/
theorem exists_mem_wordsFrom {word cs : List (List Char)} {g : List Char}
    (hsep : isSeparator g = false) (hg : g ∈ word ∨ g ∈ cs) : ∃ w ∈ wordsFrom word cs, g ∈ w := by
  fun_induction wordsFrom word cs with
  | case1 word =>
    have hword := hg.resolve_right List.not_mem_nil
    exact ⟨word.reverse, List.mem_singleton_self _, List.mem_reverse.2 hword⟩
  | case2 word a rest ha ih =>
    by_cases hword : g ∈ word
    · exact ⟨word.reverse, List.mem_cons_self, List.mem_reverse.2 hword⟩
    · have hne : g ≠ a := fun hga => by rw [hga, ha] at hsep; cases hsep
      have hrest := (List.mem_cons.1 (hg.resolve_left hword)).resolve_left hne
      obtain ⟨w, hw, hgw⟩ := ih (.inr hrest)
      exact ⟨w, List.mem_cons_of_mem _ hw, hgw⟩
  | case3 word a ha =>
    refine ⟨(a :: word).reverse, List.mem_singleton_self _, List.mem_reverse.2 ?_⟩
    rcases hg with hword | hhere
    · exact List.mem_cons_of_mem a hword
    · exact List.mem_singleton.1 hhere ▸ List.mem_cons_self
  | case4 word a ha b more hsplit ih =>
    by_cases hword : g ∈ a :: word
    · exact ⟨(a :: word).reverse, List.mem_cons_self, List.mem_reverse.2 hword⟩
    · rw [List.mem_cons, not_or] at hword
      have hrest := (List.mem_cons.1 (hg.resolve_left hword.2)).resolve_left hword.1
      obtain ⟨w, hw, hgw⟩ := ih (.inr hrest)
      exact ⟨w, List.mem_cons_of_mem _ hw, hgw⟩
  | case5 word a ha b more hsplit ih =>
    refine ih ?_
    rcases hg with hword | hhere
    · exact .inl (List.mem_cons_of_mem a hword)
    · rcases List.mem_cons.1 hhere with rfl | hrest
      · exact .inl List.mem_cons_self
      · exact .inr hrest

theorem mem_intercalate_of_mem {s part : String} {parts : List String} {c : Char}
    (hpart : part ∈ parts) (hc : c ∈ part.toList) : c ∈ (s.intercalate parts).toList := by
  induction parts with
  | nil => cases hpart
  | cons first rest ih =>
    by_cases hrest : rest = []
    · subst hrest
      rw [List.mem_singleton.1 hpart] at hc
      exact hc
    · rw [String.intercalate_cons_of_ne_nil hrest, String.toList_append, String.toList_append,
        List.mem_append, List.mem_append]
      rcases List.mem_cons.1 hpart with rfl | hpart
      · exact .inl (.inl hc)
      · exact .inr (ih hpart)

/-- **A slash in a name stays there in snake case.** -/
theorem slash_mem_snakeCase {name : String} (h : '/' ∈ name.toList) :
    '/' ∈ (snakeCase name).toList := by
  rw [← flatten_clusters name.toList] at h
  obtain ⟨g, hg, hslash⟩ := List.mem_flatten.1 h
  have hsep : isSeparator g = false := by
    cases hsep : isSeparator g with
    | false => rfl
    | true =>
      unfold isSeparator at hsep
      simp only [Bool.or_eq_true, beq_iff_eq] at hsep
      rcases hsep with (rfl | rfl) | rfl <;> exact absurd hslash (by decide)
  obtain ⟨w, hw, hgw⟩ := exists_mem_wordsFrom hsep (.inr hg)
  have hword : w.flatten ∈ words name.toList := List.mem_map.2 ⟨w, hw, rfl⟩
  refine mem_intercalate_of_mem (List.mem_map.2 ⟨_, hword, rfl⟩) ?_
  rw [String.toList_ofList]
  exact slash_mem_lowerFrom_of_mem (List.mem_flatten.2 ⟨g, hgw, hslash⟩)

end FluentBuilder.Text
