import SealedVault.Disk.Path

/-!
# Names along joined paths

A part without slashes that names something adds one name to a path. The joined path leads to that
name in what the path leads to, and the path is its parent. The parent of any path has its names but
for the last one.
-/

namespace SealedVault.Path

/-! ## Parts between slashes -/

theorem splitSlashes_append (part as bs : List Char) :
    splitSlashes part (as ++ '/' :: bs) = splitSlashes part as ++ splitSlashes [] bs := by
  induction as generalizing part with
  | nil => simp [splitSlashes]
  | cons a as ih =>
    by_cases ha : a = '/'
    · simp [splitSlashes, ha, ih]
    · simp [splitSlashes, ha, ih]

theorem splitSlashes_of_not_mem (part : List Char) {cs : List Char} (h : '/' ∉ cs) :
    splitSlashes part cs = [part.reverse ++ cs] := by
  induction cs generalizing part with
  | nil => simp [splitSlashes]
  | cons c cs ih =>
    rw [List.mem_cons, not_or] at h
    rw [splitSlashes, if_neg (Ne.symm h.1), ih (c :: part) h.2]
    simp

theorem splitSlashes_ne_nil (part cs : List Char) : splitSlashes part cs ≠ [] := by
  induction cs generalizing part with
  | nil => simp [splitSlashes]
  | cons c cs ih =>
    rw [splitSlashes]
    split
    · simp
    · exact ih _

theorem intercalate_splitSlashes (part cs : List Char) :
    "/".intercalate ((splitSlashes part cs).map String.ofList) =
      String.ofList (part.reverse ++ cs) := by
  induction cs generalizing part with
  | nil => simp [splitSlashes]
  | cons c cs ih =>
    by_cases hc : c = '/'
    · have hrest := ih []
      obtain ⟨first, rest, hsplit⟩ := List.exists_cons_of_ne_nil (splitSlashes_ne_nil [] cs)
      have hslash : ("/" : String) = String.ofList ['/'] := rfl
      rw [splitSlashes, if_pos hc]
      rw [hsplit, List.map_cons] at hrest ⊢
      rw [List.map_cons, String.intercalate_cons_cons, hrest, hc, hslash, ← String.ofList_append,
        ← String.ofList_append]
      simp
    · rw [splitSlashes, if_neg hc, ih]
      simp

/-- A path is its parts with slashes between them. -/
theorem intercalate_parts (p : Path) : "/".intercalate p.parts = p.text := by
  rw [parts, intercalate_splitSlashes]
  simp

/-! ## Joined paths -/

/-- A text that stands for one name: it has no slash, and it is neither empty nor made of one or two
dots. -/
structure IsName (part : String) : Prop where
  ne_empty : part ≠ ""
  ne_dot : part ≠ "."
  ne_dots : part ≠ ".."
  no_slash : '/' ∉ part.toList

theorem IsName.isEmptyPart {part : String} (h : IsName part) : isEmptyPart part = false := by
  simp [Path.isEmptyPart, h.ne_empty, h.ne_dot]

theorem text_join {part : String} (h : IsName part) (p : Path) :
    (p.join part).text =
      if p.text = "" ∨ p.text.toList.getLast? = some '/' then p.text ++ part
      else p.text ++ "/" ++ part := by
  have hhead : part.toList.head? ≠ some '/' := by
    intro heq
    exact h.no_slash (List.mem_of_head? heq)
  rw [join, if_neg hhead]
  split <;> rfl

/-- A joined path has one byte more than its parts, or none. -/
theorem size_join_le {part : String} (h : IsName part) (p : Path) :
    (p.join part).text.utf8ByteSize ≤ p.text.utf8ByteSize + 1 + part.utf8ByteSize := by
  have hslash : "/".utf8ByteSize = 1 := rfl
  rw [text_join h]
  split
  · rw [String.utf8ByteSize_append]
    omega
  · simp only [String.utf8ByteSize_append, hslash, Nat.le_refl]

theorem isUnusable_join {part : String} (h : IsName part) {p : Path}
    (hp : p.isUnusable = false) (hpart : '\x00' ∉ part.toList) :
    (p.join part).isUnusable = false := by
  simp only [isUnusable, List.contains_eq_mem, decide_eq_false_iff_not] at hp ⊢
  rw [text_join h]
  split
  · simp [hp, hpart]
  · simp [hp, hpart]

/-- The parts of a joined path: in front of the new name are parts with the names of the path. -/
theorem parts_join {part : String} (h : IsName part) (p : Path) :
    ∃ front : List String,
      (p.join part).parts = front ++ [part] ∧
        front.filter (fun part => !isEmptyPart part) = p.names := by
  have hlast : splitSlashes [] part.toList = [part.toList] :=
    splitSlashes_of_not_mem [] h.no_slash
  rw [parts, text_join h]
  by_cases hempty : p.text = ""
  · refine ⟨[], ?_, ?_⟩
    · rw [if_pos (Or.inl hempty), hempty, String.empty_append, hlast]
      simp
    · rw [names, parts, hempty]
      rfl
  by_cases hslash : p.text.toList.getLast? = some '/'
  · obtain ⟨front, hfront⟩ := List.getLast?_eq_some_iff.mp hslash
    refine ⟨(splitSlashes [] front).map String.ofList, ?_, ?_⟩
    · rw [if_pos (Or.inr hslash), String.toList_append, hfront, List.append_assoc,
        List.singleton_append, splitSlashes_append, hlast]
      simp
    · rw [names, parts, hfront, splitSlashes_append]
      simp [splitSlashes, isEmptyPart]
  · refine ⟨p.parts, ?_, rfl⟩
    have hchars : (p.text ++ "/" ++ part).toList = p.text.toList ++ '/' :: part.toList := by
      simp
    rw [if_neg (not_or.mpr ⟨hempty, hslash⟩), hchars, splitSlashes_append, hlast, parts]
    simp

theorem names_join {part : String} (h : IsName part) (p : Path) :
    (p.join part).names = p.names ++ [part] := by
  obtain ⟨front, hparts, hfront⟩ := parts_join h p
  rw [names, hparts, List.filter_append, hfront]
  simp [h.isEmptyPart]

theorem wantsDirectory_join {part : String} (h : IsName part) (p : Path) :
    (p.join part).wantsDirectory = false := by
  obtain ⟨front, hparts, -⟩ := parts_join h p
  simp [wantsDirectory, hparts, h.isEmptyPart]

theorem endsInDot_join {part : String} (h : IsName part) (p : Path) :
    (p.join part).endsInDot = false := by
  obtain ⟨front, hparts, -⟩ := parts_join h p
  simp [endsInDot, hparts, h.ne_empty, h.ne_dot]

theorem endsUnnamed_join {part : String} (h : IsName part) (p : Path) :
    (p.join part).endsUnnamed = false := by
  rw [endsUnnamed, names_join h, List.getLast?_concat, Option.all_some, decide_eq_false_iff_not]
  exact h.ne_dots

/-- The parent of a joined path is the path, if that itself ends in a name. -/
theorem parent_join_join {part name : String} (hpart : IsName part) (hname : IsName name)
    (p : Path) : ((p.join part).join name).parent = p.join part := by
  obtain ⟨front, hparts, -⟩ := parts_join hpart p
  have hlast : (p.join part).text.toList.getLast? ≠ some '/' := by
    obtain ⟨c, hc⟩ : ∃ c, part.toList.getLast? = some c := by
      have hne : part.toList ≠ [] := by simpa using hpart.ne_empty
      exact ⟨_, List.getLast?_eq_some_getLast hne⟩
    have hmem : c ∈ part.toList := List.mem_of_getLast? hc
    have hend : (p.join part).text.toList.getLast? = some c := by
      rw [text_join hpart]
      split
      · rw [String.toList_append, List.getLast?_append, hc]
        rfl
      · rw [String.toList_append, List.getLast?_append, hc]
        rfl
    rw [hend]
    rintro heq
    cases heq
    exact hpart.no_slash hmem
  have hempty : (p.join part).text ≠ "" := by
    intro heq
    have hnone := congrArg String.toList heq
    rw [text_join hpart] at hnone
    split at hnone <;> simp [hpart.ne_empty] at hnone
  have hjoined : ((p.join part).join name).parts = (p.join part).parts ++ [name] := by
    have hchars : ((p.join part).text ++ "/" ++ name).toList =
        (p.join part).text.toList ++ '/' :: name.toList := by
      simp
    rw [parts, text_join hname, if_neg (not_or.mpr ⟨hempty, hlast⟩), hchars, splitSlashes_append,
      splitSlashes_of_not_mem [] hname.no_slash, parts]
    simp
  have htext : ((p.join part).join name).parent = ⟨"/".intercalate (p.join part).parts⟩ := by
    rw [parent, hjoined, hparts]
    simp [hname.isEmptyPart, hpart.isEmptyPart]
  rw [htext, intercalate_parts]

/-! ## Parents -/

theorem not_mem_of_mem_splitSlashes {part cs piece : List Char} (hpart : '/' ∉ part)
    (h : piece ∈ splitSlashes part cs) : '/' ∉ piece := by
  induction cs generalizing part with
  | nil =>
    obtain rfl := List.mem_singleton.mp h
    simpa using hpart
  | cons c rest ih =>
    rw [splitSlashes] at h
    split at h
    next hc =>
      rcases List.mem_cons.mp h with rfl | h
      · simpa using hpart
      · exact ih List.not_mem_nil h
    next hc =>
      refine ih ?_ h
      rw [List.mem_cons, not_or]
      exact ⟨fun heq => hc heq.symm, hpart⟩

theorem no_slash_of_mem_parts {p : Path} {part : String} (h : part ∈ p.parts) :
    '/' ∉ part.toList := by
  obtain ⟨piece, hpiece, rfl⟩ := List.mem_map.mp h
  rw [String.toList_ofList]
  exact not_mem_of_mem_splitSlashes List.not_mem_nil hpiece

/-- Parts that are put together are the parts of the path that they make. -/
theorem parts_intercalate {ps : List String} (hne : ps ≠ [])
    (hps : ∀ part ∈ ps, '/' ∉ part.toList) : (⟨"/".intercalate ps⟩ : Path).parts = ps := by
  induction ps with
  | nil => exact absurd rfl hne
  | cons part rest ih =>
    rw [List.forall_mem_cons] at hps
    cases rest with
    | nil =>
      rw [String.intercalate_singleton, parts, splitSlashes_of_not_mem [] hps.1]
      simp
    | cons next rest =>
      have htext : ("/".intercalate (part :: next :: rest)).toList =
          part.toList ++ '/' :: ("/".intercalate (next :: rest)).toList := by
        rw [String.intercalate_cons_cons]
        simp
      have hrest := ih (List.cons_ne_nil _ _) hps.2
      rw [parts] at hrest ⊢
      rw [htext, splitSlashes_append, splitSlashes_of_not_mem [] hps.1, List.map_append, hrest]
      simp

theorem names_intercalate {ps : List String} (hps : ∀ part ∈ ps, '/' ∉ part.toList) :
    (⟨"/".intercalate ps⟩ : Path).names = ps.filter fun part => !isEmptyPart part := by
  by_cases hnil : ps = []
  · rw [hnil]
    decide
  · rw [names, parts_intercalate hnil hps]

theorem filter_dropWhile_isEmptyPart (ps : List String) :
    (ps.dropWhile isEmptyPart).filter (fun part => !isEmptyPart part) =
      ps.filter fun part => !isEmptyPart part := by
  induction ps with
  | nil => rfl
  | cons part rest ih =>
    cases hpart : isEmptyPart part with
    | true =>
      rw [List.dropWhile_cons_of_pos hpart, ih, List.filter_cons_of_neg (by simp [hpart])]
    | false => rw [List.dropWhile_cons_of_neg (by simp [hpart])]

theorem filter_tail_dropWhile_isEmptyPart (ps : List String) :
    (ps.dropWhile isEmptyPart).tail.filter (fun part => !isEmptyPart part) =
      (ps.filter fun part => !isEmptyPart part).tail := by
  induction ps with
  | nil => rfl
  | cons part rest ih =>
    cases hpart : isEmptyPart part with
    | true =>
      rw [List.dropWhile_cons_of_pos hpart, ih, List.filter_cons_of_neg (by simp [hpart])]
    | false =>
      rw [List.dropWhile_cons_of_neg (by simp [hpart]), List.filter_cons_of_pos (by simp [hpart])]
      rfl

/-- The parent of a path has its names without the last one. -/
theorem names_parent (p : Path) : p.parent.names = p.names.dropLast := by
  rw [parent, names_intercalate]
  · rw [List.filter_reverse, filter_dropWhile_isEmptyPart, filter_tail_dropWhile_isEmptyPart,
      List.filter_reverse, ← names, List.tail_reverse, List.reverse_reverse]
  · intro part hpart
    apply no_slash_of_mem_parts (p := p)
    have h := List.dropWhile_subset _ (List.mem_reverse.mp hpart)
    exact List.mem_reverse.mp (List.dropWhile_subset _ (List.mem_of_mem_tail h))

end SealedVault.Path
