import Mathlib.Data.List.Lex
import Mathlib.Data.Prod.Lex
import Mathlib.Data.String.Basic
import ServiceGen.Files.Path
import ServiceGen.Proofs.Text.Pieces

/-!
Paths that are put together of others. A path behind another one has the components of both, and
names with slashes between them have these names as their components.
-/
namespace ServiceGen

namespace Files

/-- What the parts of a path mean, whatever the path begins with. -/
def meaning (path : String) : List Component :=
  (Text.pieces (· == '/') path.toList).filterMap Component.ofPart

/-- What a path means by its beginning, beside the meaning of its parts. -/
def beginning (path : String) : List Component :=
  if isAbsolute path then [.root]
  else if (Text.pieces (· == '/') path.toList).head? = some ['.'] then [.current]
  else []

theorem isAbsolute_iff {path : String} :
    isAbsolute path = true ↔ ∃ rest, path.toList = '/' :: rest := by
  rw [isAbsolute, beq_iff_eq, List.head?_eq_some_iff]

theorem components_eq (path : String) : components path = beginning path ++ meaning path := by
  rw [components, beginning, meaning]
  split
  · next _ rest hpath =>
    rw [if_pos (isAbsolute_iff.mpr ⟨rest, hpath⟩)]
    rfl
  · next _ others hparts hrelative =>
    have hnot : ¬ isAbsolute path = true := fun habsolute => by
      obtain ⟨rest, hrest⟩ := isAbsolute_iff.mp habsolute
      exact hrelative rest hrest
    rw [if_neg hnot, hparts, List.head?_cons, if_pos rfl]
    rfl
  · next hrelative hparts =>
    have hnot : ¬ isAbsolute path = true := fun habsolute => by
      obtain ⟨rest, hrest⟩ := isAbsolute_iff.mp habsolute
      exact hrelative rest hrest
    have hhead : (Text.pieces (· == '/') path.toList).head? ≠ some ['.'] := by
      intro hhead
      obtain ⟨others, hothers⟩ := List.head?_eq_some_iff.mp hhead
      exact hparts others hothers
    rw [if_neg hnot, if_neg hhead, List.nil_append]

/-- A text that a file or a directory can have as its name. -/
structure IsName (name : String) : Prop where
  part : Component.ofPart name.toList = some (.named name)
  uncut : '/' ∉ name.toList

instance (name : String) : Decidable (IsName name) :=
  decidable_of_iff (Component.ofPart name.toList = some (.named name) ∧ '/' ∉ name.toList)
    ⟨fun h => ⟨h.1, h.2⟩, fun h => ⟨h.part, h.uncut⟩⟩

/-- Two dots lead above, and every other part that means anything is a name. -/
theorem cases_of_ofPart {part : List Char} {component : Component}
    (hpart : Component.ofPart part = some component) :
    component = .above ∧ part = ['.', '.'] ∨ component = .named (String.ofList part) := by
  rw [Component.ofPart] at hpart
  split at hpart
  · exact absurd hpart (by simp)
  · split at hpart
    · next hdots => exact .inl ⟨(Option.some.inj hpart).symm, beq_iff_eq.mp hdots⟩
    · exact .inr (Option.some.inj hpart).symm

/-- Parts mean no more than ways up and names. -/
theorem above_or_named_of_mem {parts : List (List Char)} {component : Component}
    (hmem : component ∈ parts.filterMap Component.ofPart) :
    component = .above ∨ ∃ name, component = .named name := by
  obtain ⟨part, -, hpart⟩ := List.mem_filterMap.mp hmem
  exact (cases_of_ofPart hpart).imp And.left fun hnamed => ⟨_, hnamed⟩

theorem isName_of_ofPart {part : List Char} {name : String}
    (hpart : Component.ofPart part = some (.named name)) (huncut : '/' ∉ part) : IsName name := by
  have hname : name = String.ofList part := by
    rcases cases_of_ofPart hpart with ⟨habove, -⟩ | hnamed
    · exact absurd habove (by simp)
    · exact Component.named.inj hnamed
  exact ⟨by rw [hname, String.toList_ofList, hpart, hname], by rwa [hname, String.toList_ofList]⟩

theorem isName_of_mem_meaning {path name : String} (hmem : .named name ∈ meaning path) :
    IsName name := by
  obtain ⟨part, hpart, hname⟩ := List.mem_filterMap.mp hmem
  exact isName_of_ofPart hname fun hslash => by
    simpa using (Text.mem_of_mem_pieces hpart hslash).2

theorem isName_of_mem_components {path name : String} (hmem : .named name ∈ components path) :
    IsName name := by
  rw [components_eq, List.mem_append] at hmem
  rcases hmem with hmem | hmem
  · rw [beginning] at hmem
    split at hmem
    · exact absurd hmem (by simp)
    · split at hmem <;> exact absurd hmem (by simp)
  · exact isName_of_mem_meaning hmem

theorem IsName.nonempty {name : String} (hname : IsName name) : name ≠ "" := by
  rintro rfl
  exact absurd hname.part (by decide)

theorem IsName.meaning {name : String} (hname : IsName name) : meaning name = [.named name] := by
  rw [Files.meaning, Text.pieces_of_notMem hname.uncut, List.filterMap_cons, hname.part]
  rfl

/-- Names with slashes between them mean these names. -/
theorem meaning_intercalate {names : List String} (hnames : ∀ name ∈ names, IsName name) :
    meaning (String.intercalate "/" names) = names.map .named := by
  induction names with
  | nil => decide
  | cons name rest ih =>
    have hname := (hnames name List.mem_cons_self).meaning
    cases rest with
    | nil => exact hname
    | cons next others =>
      have hrest := ih fun other hother => hnames other (List.mem_cons_of_mem _ hother)
      rw [meaning] at hname hrest
      rw [String.intercalate_cons_cons, meaning, String.toList_append, String.toList_append,
        List.append_assoc]
      change (Text.pieces _ (_ ++ '/' :: (String.intercalate "/" _).toList)).filterMap _ = _
      rw [Text.pieces_append_cut rfl, List.filterMap_append, hname, hrest]
      rfl

theorem IsName.head? {name : String} (hname : IsName name) (behind : List Char) :
    ((name.toList ++ behind).head? == some '/') = false := by
  cases htext : name.toList with
  | nil => exact absurd (String.toList_inj.mp (htext.trans rfl)) hname.nonempty
  | cons c cs => simpa using fun hc : c = '/' => hname.uncut (by rw [htext, hc]; simp)

/-- Names with slashes between them are a path that begins with nothing but the first name. -/
theorem beginning_intercalate {names : List String} (hnames : ∀ name ∈ names, IsName name) :
    beginning (String.intercalate "/" names) = [] := by
  cases names with
  | nil => decide
  | cons name rest =>
    have hname := hnames name List.mem_cons_self
    have hdot : name.toList ≠ ['.'] := by
      intro hdot
      have hpart := hname.part
      rw [hdot] at hpart
      exact absurd hpart (by simp [Component.ofPart])
    obtain ⟨behind, hpath, hhead⟩ : ∃ behind,
        (String.intercalate "/" (name :: rest)).toList = name.toList ++ behind ∧
          (Text.pieces (· == '/') (name.toList ++ behind)).head? = some name.toList := by
      cases rest with
      | nil =>
        refine ⟨[], by simp [String.intercalate_singleton], ?_⟩
        rw [List.append_nil, Text.pieces_of_notMem hname.uncut, List.head?_cons]
      | cons next others =>
        refine ⟨'/' :: (String.intercalate "/" (next :: others)).toList, ?_, ?_⟩
        · rw [String.intercalate_cons_cons, String.toList_append, String.toList_append,
            List.append_assoc]
          rfl
        · rw [Text.pieces_append_cut rfl, Text.pieces_of_notMem hname.uncut,
            List.singleton_append, List.head?_cons]
    rw [beginning, isAbsolute, hpath, hname.head?, if_neg (by simp), hhead,
      if_neg (by simpa using hdot)]

theorem components_intercalate {names : List String} (hnames : ∀ name ∈ names, IsName name) :
    components (String.intercalate "/" names) = names.map .named := by
  rw [components_eq, beginning_intercalate hnames, meaning_intercalate hnames, List.nil_append]

theorem components_of_isName {name : String} (hname : IsName name) :
    components name = [.named name] :=
  components_intercalate (by simpa using hname : ∀ other ∈ [name], IsName other)

/-- What nothing but names is the meaning of begins with a name. -/
theorem relative_of_components {path : String} {names : List String}
    (hpath : components path = names.map .named) :
    isAbsolute path = false ∧ meaning path = names.map .named := by
  have hbeginning : beginning path = [] := by
    have hnamed : ∀ component ∈ beginning path, ∃ name, .named name = component := by
      intro component hcomponent
      have hmem : component ∈ names.map .named := by
        rw [← hpath, components_eq]
        exact List.mem_append_left _ hcomponent
      obtain ⟨name, -, hname⟩ := List.mem_map.mp hmem
      exact ⟨name, hname⟩
    rw [beginning] at hnamed ⊢
    split at hnamed
    · exact absurd (hnamed .root List.mem_cons_self) (by simp)
    · split at hnamed
      · exact absurd (hnamed .current List.mem_cons_self) (by simp)
      · next hrelative hcurrent => rw [if_neg hrelative, if_neg hcurrent]
  refine ⟨?_, by rw [← hpath, components_eq, hbeginning, List.nil_append]⟩
  rw [← Bool.not_eq_true]
  intro habsolute
  rw [beginning, if_pos habsolute] at hbeginning
  exact absurd hbeginning (List.cons_ne_nil _ _)

/-- A relative path stands behind a slash, which ends the other path if it is not put there. -/
theorem exists_front_of_join {base path : String} (hbase : base ≠ "")
    (hpath : isAbsolute path = false) :
    ∃ front, (join base path).toList = front ++ '/' :: path.toList ∧
      (base.toList = front ∧ front.getLast? ≠ some '/' ∨ base.toList = front ++ ['/']) := by
  rw [join, hpath, if_neg (by simp)]
  split
  · next hslash =>
    have hlast : base.toList.getLast? = some '/' := by simpa [hbase] using hslash
    obtain ⟨front, hfront⟩ := List.getLast?_eq_some_iff.mp hlast
    refine ⟨front, ?_, .inr hfront⟩
    rw [String.toList_append, hfront, List.append_assoc, List.singleton_append]
  · next hslash =>
    refine ⟨base.toList, ?_, .inl ⟨rfl, by simpa [hbase] using hslash⟩⟩
    rw [String.toList_append, String.toList_append, List.append_assoc]
    rfl

theorem isAbsolute_join {base path : String} (hbase : base ≠ "")
    (hpath : isAbsolute path = false) : isAbsolute (join base path) = isAbsolute base := by
  obtain ⟨front, hfront, hpieces⟩ := exists_front_of_join hbase hpath
  rw [isAbsolute, isAbsolute, hfront]
  cases front with
  | nil =>
    rcases hpieces with ⟨hpieces, -⟩ | hpieces
    · exact absurd (String.toList_inj.mp (hpieces.trans rfl)) hbase
    · rw [hpieces, List.nil_append, List.nil_append, List.head?_cons, List.head?_cons]
  | cons c cs =>
    rcases hpieces with ⟨hpieces, -⟩ | hpieces <;>
      rw [hpieces, List.cons_append, List.head?_cons] <;> simp

/-- What a relative path means behind another one, which is not empty. -/
theorem components_join {base path : String} (hbase : base ≠ "") (hpath : isAbsolute path = false) :
    components (join base path) = components base ++ meaning path := by
  obtain ⟨front, hfront, hpieces⟩ := exists_front_of_join hbase hpath
  have hmeaning : meaning base = (Text.pieces (· == '/') front).filterMap Component.ofPart := by
    rw [meaning]
    rcases hpieces with ⟨hpieces, -⟩ | hpieces
    · rw [hpieces]
    · rw [hpieces, Text.pieces_append_cut rfl, List.filterMap_append]
      exact List.append_nil _
  have hbeginning : beginning (join base path) = beginning base := by
    have hhead : (Text.pieces (· == '/') (front ++ '/' :: path.toList)).head? =
        (Text.pieces (· == '/') base.toList).head? := by
      rw [Text.pieces_append_cut rfl]
      obtain ⟨piece, others, hsome⟩ := Text.exists_pieces (· == '/') front
      rcases hpieces with ⟨hpieces, -⟩ | hpieces
      · rw [hpieces, hsome, List.cons_append, List.head?_cons, List.head?_cons]
      · rw [hpieces, Text.pieces_append_cut rfl, hsome, List.cons_append, List.head?_cons,
          List.cons_append, List.head?_cons]
    rw [beginning, beginning, isAbsolute_join hbase hpath, hfront, hhead]
  rw [components_eq, components_eq base, hbeginning, hmeaning, meaning, hfront,
    Text.pieces_append_cut rfl, List.filterMap_append, List.append_assoc]
  rfl

theorem join_empty (path : String) : join "" path = path := by
  rw [join]
  split
  · rfl
  · rw [if_pos (by rfl), String.empty_append]

end Files

end ServiceGen

/-!
The order of paths. Components are compared by their rank and then by their name, and paths as
lists of components, so that of two different paths one comes before the other.
-/
namespace ServiceGen.Files

namespace Component

/-- What components are compared by. -/
def key (component : Component) : ℕ ×ₗ String :=
  toLex (component.rank, component.name?.getD "")

theorem key_injective : Function.Injective key := by
  intro a b hkey
  obtain ⟨hrank, hname⟩ := Prod.mk.inj (toLex.injective hkey)
  cases a <;> cases b <;> simp_all [rank, name?]

theorem before_iff {a b : Component} : a.before b = true ↔ a.key < b.key := by
  cases a <;> cases b <;> simp [before, key, rank, name?, Prod.Lex.toLex_lt_toLex]

end Component

/-- What paths are compared by. -/
def keys (path : List Component) : List (ℕ ×ₗ String) := path.map Component.key

@[simp]
theorem keys_cons (component : Component) (path : List Component) :
    keys (component :: path) = component.key :: keys path := rfl

theorem keys_injective : Function.Injective keys :=
  List.map_injective_iff.mpr Component.key_injective

/-- The order of paths is a linear order. -/
theorem before_iff {a b : List Component} : before a b = true ↔ keys a < keys b := by
  induction a generalizing b with
  | nil => cases b <;> simp [before, keys]
  | cons x xs ih =>
    cases b with
    | nil => simp [before, keys]
    | cons y ys =>
      rw [before, Bool.or_eq_true, Bool.and_eq_true, beq_iff_eq, Component.before_iff, ih,
        keys_cons, keys_cons, List.cons_lt_cons_iff, Component.key_injective.eq_iff]

end ServiceGen.Files
