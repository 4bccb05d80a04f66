import Mathlib.Data.List.Forall2
import Mathlib.Data.List.TakeWhile
import StarPlan.Files.Pattern

/-!
# Renamed files

A file's name is a stem and an ending behind its last point. The patterns for table files look at
the ending alone, and so does the choice of a reader, so a file may get another stem without
being read in another way. A stem must stay, though: a point at the very start of a name begins
no ending for the reader, but it does for a pattern.
-/

namespace StarPlan

namespace FilePath

/-- Both names have a stem and the same ending after it, or both have none. -/
inductive SameEnding : String → String → Prop where
  | bare {name name' : String} (noPoint : '.' ∉ name.toList) (noPoint' : '.' ∉ name'.toList) :
    SameEnding name name'
  | point {stem stem' ending : String} (named : stem ≠ "") (named' : stem' ≠ "")
    (noPoint : '.' ∉ ending.toList) : SameEnding (stem ++ "." ++ ending) (stem' ++ "." ++ ending)

/-- What follows the last point. -/
def afterPoint (cs : List Char) : List Char :=
  (cs.reverse.takeWhile (· != '.')).reverse

private theorem ne_point_of_mem_reverse {cs : List Char} (noPoint : '.' ∉ cs) :
    ∀ c ∈ cs.reverse, (c != '.') = true := by
  intro c member
  rw [List.mem_reverse] at member
  exact bne_iff_ne.2 fun same => noPoint (same ▸ member)

theorem afterPoint_append {ending : List Char} (noPoint : '.' ∉ ending) (stem : List Char) :
    afterPoint (stem ++ '.' :: ending) = ending := by
  simp [afterPoint, List.takeWhile_append_of_pos (ne_point_of_mem_reverse noPoint)]

theorem ending?_point {stem ending : String} (named : stem ≠ "") (noPoint : '.' ∉ ending.toList) :
    ending? (stem ++ "." ++ ending) = some ending := by
  have plain := ne_point_of_mem_reverse noPoint
  have stays : stem.toList ≠ [] := fun nil => named (String.toList_eq_nil_iff.1 nil)
  simp [ending?, List.takeWhile_append_of_pos plain, List.dropWhile_append_of_pos plain, stays]

theorem ending?_bare {name : String} (noPoint : '.' ∉ name.toList) : ending? name = none := by
  simp [ending?, List.dropWhile_eq_nil_iff.2 (ne_point_of_mem_reverse noPoint)]

variable {name name' : String}

theorem SameEnding.ending? (h : SameEnding name name') :
    FilePath.ending? name = FilePath.ending? name' := by
  cases h with
  | bare noPoint noPoint' => rw [ending?_bare noPoint, ending?_bare noPoint']
  | point named named' noPoint => rw [ending?_point named noPoint, ending?_point named' noPoint]

/-- A text without a point in it follows the last point of both names or of neither. -/
theorem SameEnding.suffix_iff (h : SameEnding name name') {ending : List Char}
    (plain : '.' ∉ ending) :
    '.' :: ending <:+ name.toList ↔ '.' :: ending <:+ name'.toList := by
  have inside : ∀ {cs}, '.' :: ending <:+ cs → '.' ∈ cs := fun suffix =>
    suffix.subset List.mem_cons_self
  cases h with
  | bare noPoint noPoint' =>
      exact iff_of_false (fun suffix => noPoint (inside suffix))
        fun suffix => noPoint' (inside suffix)
  | @point stem stem' last _ _ noPoint =>
      have decided : ∀ stem : String, '.' :: ending <:+ (stem ++ "." ++ last).toList ↔
          ending = last.toList := by
        intro stem
        have parts : (stem ++ "." ++ last).toList = stem.toList ++ '.' :: last.toList := by simp
        rw [parts]
        constructor
        · rintro ⟨front, same⟩
          rw [← afterPoint_append plain front, same, afterPoint_append noPoint]
        · rintro rfl
          exact List.suffix_append ..
      rw [decided, decided]

end FilePath

namespace NamePart

theorem matchAll_many_iff {ps : List NamePart} {cs : List Char} :
    matchAll (many :: ps) cs = true ↔ ∃ back, back <:+ cs ∧ matchAll ps back = true := by
  induction cs with
  | nil => simp [matchAll]
  | cons c cs ih =>
      rw [matchAll, Bool.or_eq_true, ih]
      constructor
      · rintro (whole | ⟨back, suffix, matched⟩)
        · exact ⟨_, List.suffix_refl _, whole⟩
        · exact ⟨back, suffix.trans (List.suffix_cons ..), matched⟩
      · rintro ⟨back, suffix, matched⟩
        rcases List.suffix_cons_iff.1 suffix with rfl | suffix
        · exact .inl matched
        · exact .inr ⟨back, suffix, matched⟩

theorem matchAll_withEnding_iff {ending cs : List Char} :
    matchAll (.many :: .char '.' :: ending.map .char) cs = true ↔ '.' :: ending <:+ cs := by
  rw [matchAll_many_iff]
  have exactly : ∀ back, matchAll (.char '.' :: ending.map .char) back = true ↔
      back = '.' :: ending := matchAll_map_char ('.' :: ending)
  simp [exactly]

end NamePart

namespace PathPattern

theorem covers_concat_nil (ps : PathPattern) (parts : List NamePart) :
    covers (ps ++ [.parts parts]) [] = false := by
  induction ps with
  | nil => simp [covers]
  | cons p rest ih => cases p <;> simp [covers, ih]

/-- The last name of a path is judged by the last part of a pattern alone. -/
theorem covers_concat (ps : PathPattern) (parts : List NamePart) (path : FilePath)
    (name : String) :
    covers (ps ++ [.parts parts]) (path ++ [name]) =
      (covers ps path && NamePart.matchAll parts name.toList) := by
  fun_induction covers ps path with
  | case1 path => cases path <;> simp [covers]
  | case2 ps ih =>
      rw [List.nil_append] at ih
      simp [covers, covers_concat_nil, ih]
  | case3 ps a path ih ih' =>
      simp only [List.cons_append, covers] at ih ih' ⊢
      rw [ih, ih', Bool.and_or_distrib_right]
  | case4 parts ps => simp [covers, covers_concat_nil]
  | case5 parts ps a path ih => simp [covers, ih, Bool.and_assoc]

end PathPattern

namespace FileTree

/-- What stands at a path, before and after files in some folders got other stems. -/
inductive Renamed (folders : List FilePath) :
    FilePath × FileEntry → FilePath × FileEntry → Prop where
  | same (a : FilePath × FileEntry) : Renamed folders a a
  | file {folder : FilePath} (inside : folder ∈ folders) {name name' : String}
    (alike : FilePath.SameEnding name name') (bytes : ByteArray) :
    Renamed folders (folder ++ [name], .file bytes) (folder ++ [name'], .file bytes)

/-- Two trees that differ in the stems of files in some folders. -/
def RenamedIn (folders : List FilePath) (t t' : FileTree) : Prop :=
  ∃ entries, List.Forall₂ (Renamed folders) t.entries entries ∧ entries.Perm t'.entries

variable {folders : List FilePath} {t t' : FileTree}

/-- Whatever is collected from entries without a look at their stems stays the same. -/
theorem RenamedIn.filter_map_perm (h : t.RenamedIn folders t') {β : Type}
    {wanted : FilePath × FileEntry → Bool} {view : FilePath × FileEntry → β}
    (judged : ∀ {a b}, Renamed folders a b → wanted a = wanted b)
    (viewed : ∀ {a b}, Renamed folders a b → wanted a = true → view a = view b) :
    ((t.entries.filter wanted).map view).Perm ((t'.entries.filter wanted).map view) := by
  obtain ⟨entries, renamed, perm⟩ := h
  have same : ∀ {l l'}, List.Forall₂ (Renamed folders) l l' →
      (l.filter wanted).map view = (l'.filter wanted).map view := by
    intro l l' renamed
    induction renamed with
    | nil => rfl
    | @cons a b l l' first _ ih =>
        cases chosen : wanted a with
        | false => simp [chosen, ← judged first, ih]
        | true => simp [chosen, ← judged first, viewed first chosen, ih]
  rw [same renamed]
  exact (perm.filter wanted).map view

theorem contains_iff {p : FilePath} (inside : p ≠ []) :
    t.contains p = true ↔ ∃ e, (p, e) ∈ t.entries := by
  rw [contains, get?, if_neg (by simpa using inside), List.lookup_isSome_iff]
  simp

/-- What is no file in one of the folders is still there. -/
theorem RenamedIn.contains_eq (h : t.RenamedIn folders t') {p : FilePath} (inside : p ≠ [])
    (outside : ∀ folder ∈ folders, ∀ name, p ≠ folder ++ [name]) :
    t.contains p = t'.contains p := by
  have judged : ∀ {a b : FilePath × FileEntry}, Renamed folders a b →
      decide (a.1 = p) = decide (b.1 = p) := by
    intro a b renamed
    cases renamed with
    | same => rfl
    | @file folder member name name' =>
        have before := (outside folder member name).symm
        have after := (outside folder member name').symm
        simp [before, after]
  have perm : ((t.entries.filter fun a => decide (a.1 = p)).map fun _ => ()).Perm
      ((t'.entries.filter fun a => decide (a.1 = p)).map fun _ => ()) :=
    h.filter_map_perm judged fun _ _ => rfl
  have size := perm.length_eq
  rw [List.length_map, List.length_map] at size
  have found : ∀ t : FileTree, t.contains p = true ↔
      0 < (t.entries.filter fun a => decide (a.1 = p)).length := by
    intro t
    rw [contains_iff inside, List.length_pos_iff_exists_mem]
    constructor
    · rintro ⟨e, member⟩
      exact ⟨(p, e), by simp [member]⟩
    · rintro ⟨⟨q, e⟩, member⟩
      obtain ⟨member, same⟩ := List.mem_filter.1 member
      exact ⟨e, of_decide_eq_true same ▸ member⟩
  rw [Bool.eq_iff_iff, found, found, size]

end FileTree

end StarPlan
