import FluentBuilder.Layout.TreeLayout
import FluentBuilder.Proofs.Code.TypeReading
import FluentBuilder.Proofs.Layout.Phrases

/-!
# The texts of types

Types that are made of paths, references, pointers, slices and tuples are read back as types,
however they are laid out.  The layout of other types need not be read back: the tokens of a macro
call are spaced by rules of their own, and a call of a macro may hold tokens that these rules turn
into a comment.

* `TypeExpr.isPlain` — types of these forms;
* `TypeExpr.lays`, `Path.lays` — what their layout is read as.
-/

namespace FluentBuilder

/-! ### Plain types -/

namespace Code

/-- Whether a path is only the start of one. -/
def Path.isStart : Path → Bool
  | .root _ => true
  | _ => false

mutual
/-- Whether a type is made of paths, references, pointers, slices and tuples only. -/
def TypeExpr.isPlain : TypeExpr → Bool
  | .path path => !path.isStart && path.isPlain
  | .slice element => element.isPlain
  | .tuple elements _ => arePlainTypes elements
  | .paren inner => inner.isPlain
  | .reference lifetime _ target =>
    lifetime.all (fun name => decide (IsName name)) && target.isPlain
  | .pointer _ target => target.isPlain
  | .never => true
  | .infer => true
  | _ => false

/-- Whether each type of a list is plain. -/
def arePlainTypes : List TypeExpr → Bool
  | [] => true
  | type :: rest => type.isPlain && arePlainTypes rest

/-- Whether a path is made of names with plain types and lifetimes as arguments. -/
def Path.isPlain : Path → Bool
  | .root _ => true
  | .plain before name => before.isPlain && decide (IsName name) && isPathWord name
  | .angle before name _ arguments _ =>
    before.isPlain && decide (IsName name) && !isKeyword name && !arguments.isEmpty
      && arePlainArguments arguments
  | _ => false

/-- Whether each argument of a list is a lifetime or a plain type. -/
def arePlainArguments : List Generic → Bool
  | [] => true
  | .lifetime name :: rest => decide (IsName name) && arePlainArguments rest
  | .type type :: rest => type.isPlain && arePlainArguments rest
  | _ => false
end

end Code

namespace Layout

open FluentBuilder.Code

/-! ### Paths -/

/-- The start of a path that a further name follows. -/
def LaysStart (inExpr : Bool) (before : Path) : Prop :=
  (∃ leading, before = .root leading)
    ∨ (linkLayout before = [.text "::"]
      ∧ Lays false false (pathLayout inExpr before) (IsPathText inExpr))

/-- A double colon in front of a segment of a path. -/
theorem lays_link {ends inExpr : Bool} {name : String} {more : List Document} (hname : IsName name)
    (h : Lays false ends (.text name :: more) (IsSegmentText inExpr)) :
    Lays true ends (.text "::" :: .text name :: more) fun trees => ∃ body, IsSegmentText inExpr body
      ∧ trees = .leaf (.punct ':' true) :: .leaf (.punct ':' false) :: body :=
  lays_operator_cons [] [':', ':'] rfl (by decide) (fun _ => (by decide : standsApart ':' = true))
    blanks_nil hname h

/-- **A path with one more segment.** -/
theorem LaysStart.segment {ends inExpr : Bool} {before : Path} {name : String}
    {more : List Document} (hbefore : LaysStart inExpr before) (hname : IsName name)
    (h : Lays false ends (.text name :: more) (IsSegmentText inExpr)) :
    Lays false ends (pathLayout inExpr before ++ linkLayout before ++ .text name :: more)
      (IsPathText inExpr) := by
  rcases hbefore with ⟨leading, rfl⟩ | ⟨hlink, hbefore⟩
  · cases leading with
    | false => exact h.mono fun _ htext => htext.isPathText
    | true =>
      refine (lays_link hname h).weaken_starts.mono ?_
      rintro _ ⟨body, hbody, rfl⟩
      exact hbody.isPathText_leading
  · rw [hlink, List.append_assoc]
    refine (hbefore.append (lays_link hname h) (.inr rfl)).mono ?_
    rintro _ ⟨front, _, rfl, hfront, body, hbody, rfl⟩
    exact hfront.link hbody

theorem lays_nameSegment {name : String} (hname : IsName name) (hpath : isPathWord name = true)
    (inExpr : Bool) :
    Lays false false [.text name] (IsSegmentText inExpr) := by
  refine (lays_name hname).mono ?_
  rintro _ rfl
  exact isSegmentText_name hpath inExpr

/-- **A name with arguments between angle brackets.** -/
theorem lays_angleSegment {name : String} {entries : List (Bool × List Document)}
    (hname : IsName name) (hkeyword : isKeyword name = false) (hne : entries ≠ [])
    (hentries : ∀ entry ∈ entries, Lays false false entry.2 fun trees => IsArgumentText trees) :
    Lays false true (.text name :: angleLayout "<" entries) (IsSegmentText false) := by
  have hitems : ∀ item ∈ inOrder entries, Lays false false item IsArgumentText := by
    intro item hitem
    obtain ⟨entry, hentry, rfl⟩ := List.mem_map.1 hitem
    exact hentries entry
      ((List.mem_append.1 hentry).elim List.mem_of_mem_filter List.mem_of_mem_filter)
  have hne' : inOrder entries ≠ [] := by
    unfold inOrder
    intro hempty
    obtain ⟨entry, hentry⟩ := List.exists_mem_of_ne_nil entries hne
    have hnone := List.append_eq_nil_iff.1 (List.map_eq_nil_iff.1 hempty)
    cases hmark : entry.1 with
    | true => exact List.ne_nil_of_mem (List.mem_filter.2 ⟨hentry, hmark⟩) hnone.1
    | false => exact List.ne_nil_of_mem (List.mem_filter.2 ⟨hentry, by rw [hmark]; rfl⟩) hnone.2
  have hopening : Lays true true [.text "<"] fun trees => ∃ joint,
      trees = operatorTokens joint ['<'] :=
    lays_operator [] ['<'] rfl (by decide) (fun _ => (by decide : standsApart '<' = true))
      blanks_nil
  have hclosing : Lays true true [.text ">"] fun trees => ∃ joint,
      trees = operatorTokens joint ['>'] :=
    lays_operator [] ['>'] rfl (by decide) (fun _ => (by decide : standsApart '>' = true))
      blanks_nil
  have hinner : Lays false false
    (indented (outdent (softBreak :: listed commaBreak (inOrder entries))))
      (CommaList IsArgumentText) :=
    (((lays_list (by decide) hne' hitems).place_cons (by decide)).outdent).box _ _
  have hlayout : angleLayout "<" entries
      = [.text "<"] ++ indented (outdent (softBreak :: listed commaBreak (inOrder entries)))
        ++ [.text ">"] := by
    cases entries with
    | nil => exact absurd rfl hne
    | cons => rfl
  rw [hlayout]
  refine ((lays_name hname).append ((hopening.append hinner (.inl rfl)).append hclosing (.inr rfl))
    (.inr rfl)).mono ?_
  rintro _ ⟨_, _, rfl, rfl, _, _, rfl, ⟨_, arguments, rfl, ⟨joint, rfl⟩, harguments⟩, joint', rfl⟩
  exact isSegmentText_angle hkeyword harguments joint joint'

/-! ### Types -/

/-- A type between brackets, or several. -/
theorem lays_parens {ds : List Document} (h : Lays false false ds (CommaTrees IsTypeText)) :
    Lays false false ([.text "("] ++ ds ++ [.text ")"]) IsTypeText := by
  refine (lays_group .paren [] [] rfl rfl blanks_nil blanks_nil h).weaken.mono ?_
  rintro _ ⟨inner, hinner, rfl⟩
  exact isTypeText_paren hinner

/-- The layout of several types between parentheses. -/
theorem lays_tuple {items : List (List Document)}
    (h : ∀ item ∈ items, Lays false false item IsTypeText) :
    Lays false false (tupleLayout items) IsTypeText := by
  unfold tupleLayout
  split
  · next single =>
    have hitem := h single List.mem_cons_self
    have hcomma : Lays true true ([.text ","] ++ [softBreak]) IsComma :=
      lays_comma.append_place (by decide)
    have hinner : Lays false false (softBreak :: (single ++ ([.text ","] ++ [softBreak])))
        (CommaTrees IsTypeText) := by
      refine ((hitem.append hcomma (.inr rfl)).weaken.place_cons (by decide)).mono ?_
      rintro _ ⟨front, back, rfl, hfront, hback⟩
      exact .inr (.last hfront (.inr hback))
    exact lays_parens (hinner.outdent.box _ _)
  · exact lays_parens ((((lays_listed (by decide) h).place_cons (by decide)).outdent).box _ _)

/-- The layout of a reference. -/
theorem lays_reference {target : List Document} (h : Lays false false target IsTypeText)
    (lifetime : Option String) (mutable : Bool)
    (hlifetime : lifetime.all (fun name => decide (IsName name)) = true) :
    Lays false false ([.text "&"] ++ (match lifetime with
      | some name => [.text (lifetimeText name), .text " "]
      | none => []) ++ textIf mutable "mut " ++ target) IsTypeText := by
  have hopening : Lays true true [.text "&"] fun trees => ∃ joint,
      trees = operatorTokens joint ['&'] :=
    lays_operator [] ['&'] rfl (by decide) (fun _ => (by decide : standsApart '&' = true))
      blanks_nil
  have hmutable := h.prefixed mutable [' '] (show "mut ".toList = "mut".toList ++ [' '] from rfl)
    (by decide)
    blanks_space (List.cons_ne_nil _ _)
  cases lifetime with
  | none =>
    refine (hopening.append hmutable (.inl rfl)).weaken.mono ?_
    rintro _ ⟨_, _, rfl, ⟨joint, rfl⟩, body, hbody, rfl⟩
    exact hbody.reference joint mutable none
  | some name =>
    have hname : IsName name := of_decide_eq_true hlifetime
    have hmark := (lays_lifetime hname).append lays_blank (.inr rfl)
    refine (hopening.append (hmark.append hmutable (.inl rfl)) (.inl rfl)).weaken.mono ?_
    rintro _ ⟨_, _, rfl, ⟨joint, rfl⟩, _, _, rfl, ⟨_, _, rfl, rfl, rfl⟩, body, hbody, rfl⟩
    exact hbody.reference joint mutable (some name)

/-- The layout of a pointer. -/
theorem lays_pointer {target : List Document} (h : Lays false false target IsTypeText)
    (mutable : Bool) :
    Lays false false ([.text "*", .text (if mutable then "mut " else "const ")] ++ target)
      IsTypeText := by
  have hopening : Lays true true [.text "*"] fun trees => ∃ joint,
      trees = operatorTokens joint ['*'] :=
    lays_operator [] ['*'] rfl (by decide) (fun _ => (by decide : standsApart '*' = true))
      blanks_nil
  have hword : Lays false true [.text (if mutable then "mut " else "const ")]
      (· = [word (if mutable then "mut" else "const")]) := by
    cases mutable with
    | true => exact lays_word [] [' '] rfl (by decide) blanks_nil blanks_space
    | false => exact lays_word [] [' '] rfl (by decide) blanks_nil blanks_space
  refine (hopening.append (hword.append h (.inl rfl)) (.inl rfl)).weaken.mono ?_
  rintro _ ⟨_, _, rfl, ⟨joint, rfl⟩, _, body, rfl, rfl, hbody⟩
  exact hbody.pointer joint mutable

mutual
theorem lays_type (type : TypeExpr) (h : type.isPlain = true) :
    Lays false false (typeLayout type) IsTypeText := by
  cases type with
  | path path =>
    obtain ⟨hstart, hpath⟩ := Bool.and_eq_true_iff.1 h
    rcases lays_path path hpath with ⟨leading, rfl⟩ | ⟨-, hpath⟩
    · cases hstart
    · exact hpath.mono fun _ htext => htext.isTypeText
  | slice element =>
    refine (lays_group .bracket [] [] rfl rfl blanks_nil blanks_nil
      (lays_type element h)).weaken.mono ?_
    rintro _ ⟨inner, hinner, rfl⟩
    exact hinner.slice
  | tuple elements _ => exact lays_tuple (lays_types elements h)
  | paren inner => exact lays_parens ((lays_type inner h).mono fun trees htrees => .inr (by
      rw [← List.append_nil trees]
      exact .last htrees (.inl rfl)))
  | reference lifetime mutable target =>
    obtain ⟨hlifetime, htarget⟩ := Bool.and_eq_true_iff.1 h
    exact lays_reference (lays_type target htarget) lifetime mutable hlifetime
  | pointer mutable target => exact lays_pointer (lays_type target h) mutable
  | never =>
    have hmark : Lays true true [.text "!"] fun trees => ∃ joint,
        trees = operatorTokens joint ['!'] :=
      lays_operator [] ['!'] rfl (by decide) (fun _ => (by decide : standsApart '!' = true))
        blanks_nil
    refine hmark.weaken.mono ?_
    rintro _ ⟨joint, rfl⟩
    exact isTypeText_never joint
  | infer =>
    refine (lays_name (by decide)).mono ?_
    rintro _ rfl
    exact isTypeText_infer
  | _ => cases h

theorem lays_types (types : List TypeExpr) (h : arePlainTypes types = true) :
    ∀ item ∈ typesLayout types, Lays false false item IsTypeText := by
  cases types with
  | nil => exact fun _ => nofun
  | cons type rest =>
    obtain ⟨htype, hrest⟩ := Bool.and_eq_true_iff.1 h
    exact List.forall_mem_cons.2 ⟨lays_type type htype, lays_types rest hrest⟩

theorem lays_path (path : Path) (h : path.isPlain = true) : LaysStart false path := by
  cases path with
  | root leading => exact .inl ⟨leading, rfl⟩
  | plain before name =>
    unfold Path.isPlain at h
    simp only [Bool.and_eq_true, decide_eq_true_eq] at h
    obtain ⟨⟨hbefore, hname⟩, hpath⟩ := h
    exact .inr ⟨rfl, (lays_path before hbefore).segment hname (lays_nameSegment hname hpath false)⟩
  | angle before name _ arguments _ =>
    unfold Path.isPlain at h
    simp only [Bool.and_eq_true, decide_eq_true_eq, Bool.not_eq_true',
      List.isEmpty_eq_false_iff] at h
    obtain ⟨⟨⟨⟨hbefore, hname⟩, hkeyword⟩, hne⟩, harguments⟩ := h
    have hentries : genericsLayout arguments ≠ [] := by
      cases arguments with
      | nil => exact absurd rfl hne
      | cons => exact List.cons_ne_nil _ _
    have hsegment := lays_angleSegment hname hkeyword hentries (lays_arguments arguments harguments)
    have hall := ((lays_path before hbefore).segment hname hsegment).weaken
    refine .inr ⟨rfl, ?_⟩
    show Lays false false (pathLayout false before ++ linkLayout before ++ [.text name]
      ++ angleLayout "<" (genericsLayout arguments)) (IsPathText false)
    rw [List.append_assoc _ [Document.text name]]
    exact hall
  | _ => cases h

theorem lays_arguments (arguments : List Generic) (h : arePlainArguments arguments = true) :
    ∀ entry ∈ genericsLayout arguments, Lays false false entry.2 IsArgumentText := by
  cases arguments with
  | nil => exact fun _ => nofun
  | cons argument rest =>
    cases argument with
    | lifetime name =>
      obtain ⟨hname, hrest⟩ := Bool.and_eq_true_iff.1 h
      refine List.forall_mem_cons.2 ⟨(lays_lifetime (of_decide_eq_true hname)).mono ?_,
        lays_arguments rest hrest⟩
      rintro _ rfl
      exact .inl ⟨name, rfl⟩
    | type type =>
      obtain ⟨htype, hrest⟩ := Bool.and_eq_true_iff.1 h
      exact List.forall_mem_cons.2 ⟨(lays_type type htype).mono fun _ => .inr,
        lays_arguments rest hrest⟩
    | _ => cases h
end

end Layout

end FluentBuilder
