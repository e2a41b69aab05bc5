import Lineage.Source.Elements
import Lineage.Proofs.Tree.Digest
import Mathlib.Data.List.Forall2

/-!
# What the texts of parameters tell

The parameters of a function are written one text each: a mark for the two that take all further
arguments, the name, and the type hint after a colon.  A parameter that can only be given by its
position and one that can only be given by its name are written like any other.  So the texts tell
names, hints and marks, wherever names hold neither mark nor colon, and leave out how many of the
parameters stand in which group.

## Main statements

- `parameter_inj`: one text has one mark, one name and one hint.
- `same_declared_iff`: **lists with the same texts declare the same exactly if as many of their
  parameters are positional-only and, without a starred one between, keyword-only.**
-/

namespace Lineage.Source

/-! ### Roles -/

/-- How a parameter takes its argument. -/
inductive Role where
  | positionalOnly
  | positional
  | rest
  | keywordOnly
  | keywordRest
  deriving DecidableEq, Repr

namespace Role

/-- The roles in the order of a parameter list. -/
def all : List Role := [positionalOnly, positional, rest, keywordOnly, keywordRest]

/-- The mark that a parameter of the role is written with. -/
def mark : Role → String
  | rest => "*"
  | keywordRest => "**"
  | positionalOnly | positional | keywordOnly => ""

end Role

namespace Params

/-- The parameters with their roles, in order. -/
def roles : Params → List (Role × Param)
  | .mk positionalOnly positional rest keywordOnly _ keywordRest _ =>
    positionalOnly.map (.positionalOnly, ·) ++ positional.map (.positional, ·)
      ++ rest.toList.map (.rest, ·) ++ keywordOnly.map (.keywordOnly, ·)
      ++ keywordRest.toList.map (.keywordRest, ·)

/-- The number of parameters of a role. -/
def number : Params → Role → Nat
  | .mk positionalOnly .., .positionalOnly => positionalOnly.length
  | .mk _ positional .., .positional => positional.length
  | .mk _ _ rest .., .rest => rest.toList.length
  | .mk _ _ _ keywordOnly .., .keywordOnly => keywordOnly.length
  | .mk _ _ _ _ _ keywordRest _, .keywordRest => keywordRest.toList.length

/-- The names hold neither a colon nor a star, as identifiers do not. -/
def Named (ps : Params) : Prop := ∀ p ∈ ps.roles, ':' ∉ p.2.name.toList ∧ '*' ∉ p.2.name.toList

/-- What the texts leave out: the roles, and where the names end. -/
def layout (ps : Params) : List (Role × Nat) := ps.roles.map fun p => (p.1, p.2.name.length)

end Params

/-- What a parameter declares: its role, its name and the text of its type hint. -/
structure Declared where
  role : Role
  name : String
  hint : Option (Except TextFault String)

variable (textOf : TextOf)

/-- What a parameter of some role declares. -/
def declaredBy (p : Role × Param) : Declared := ⟨p.1, p.2.name, p.2.hint.map textOf⟩

/-- What the parameters of a list declare, in order. Defaults do not count. -/
def Params.declared (ps : Params) : List Declared := ps.roles.map (declaredBy textOf)

/-- The text of a parameter of some role. -/
def roleText (p : Role × Param) : Except TextFault String := parameterText textOf p.1.mark p.2

theorem Params.texts_eq (ps : Params) : ps.texts textOf = ps.roles.mapM (roleText textOf) := by
  obtain ⟨positionalOnly, positional, rest, keywordOnly, _, keywordRest, _⟩ := ps
  simp [Params.texts, Params.roles, List.mapM_append, List.mapM_map, roleText, Role.mark,
    Function.comp_def]

variable {textOf}

/-! ### One text -/

/-- How the text of a parameter goes on after the name. -/
def hintText : Option String → String
  | none => ""
  | some text => ": " ++ text

theorem hintText_inj {hint hint' : Option String}
    (h : (hintText hint).toList = (hintText hint').toList) : hint = hint' := by
  have htext := String.toList_inj.mp h
  cases hint with
  | none =>
    cases hint' with
    | none => rfl
    | some text =>
      simp [hintText] at h
  | some text =>
    cases hint' with
    | none => simp [hintText] at h
    | some text' => simpa [hintText] using htext

theorem hintText_head (hint : Option String) :
    (hintText hint).toList = [] ∨ ∃ rest, (hintText hint).toList = ':' :: rest := by
  cases hint with
  | none => exact .inl rfl
  | some text => exact .inr ⟨' ' :: text.toList, by simp [hintText]⟩

/-- The text of a parameter is its mark, its name and its hint. -/
theorem roleText_ok {p : Role × Param} {text : String} (h : roleText textOf p = .ok text) :
    ∃ hint : Option String, p.2.hint.map textOf = hint.map Except.ok ∧
      text.toList = p.1.mark.toList ++ (p.2.name.toList ++ (hintText hint).toList) := by
  unfold roleText parameterText at h
  cases hhint : p.2.hint with
  | none =>
    rw [hhint] at h
    cases h
    exact ⟨none, rfl, by simp [hintText]⟩
  | some e =>
    rw [hhint] at h
    dsimp only at h
    cases he : textOf e with
    | error fault =>
      rw [he] at h
      cases h
    | ok s =>
      rw [he] at h
      cases h
      exact ⟨some s, by simp [he], by simp [hintText]⟩

/-- Where the names end is enough to read a text whose mark is known. -/
theorem declared_eq_of_width {p q : Role × Param} {text : String}
    (hp : roleText textOf p = .ok text) (hq : roleText textOf q = .ok text) (hrole : p.1 = q.1)
    (hwidth : p.2.name.length = q.2.name.length) : declaredBy textOf p = declaredBy textOf q := by
  obtain ⟨hint, hhint, htext⟩ := roleText_ok hp
  obtain ⟨hint', hhint', htext'⟩ := roleText_ok hq
  rw [htext, hrole] at htext'
  obtain ⟨hname, hrest⟩ := List.append_inj (List.append_cancel_left htext') hwidth
  unfold declaredBy
  rw [hrole, String.toList_inj.mp hname, hhint, hhint', hintText_inj hrest]

/-- The stars in front of a text without stars are its first characters that are stars. -/
theorem takeWhile_stars {mark name tail : List Char} (hmark : ∀ c ∈ mark, c = '*')
    (hname : '*' ∉ name) (htail : tail = [] ∨ ∃ rest, tail = ':' :: rest) :
    (mark ++ (name ++ tail)).takeWhile (· = '*') = mark := by
  rw [List.takeWhile_append_of_pos (by simpa using hmark)]
  have hnone : (name ++ tail).takeWhile (· = '*') = [] := by
    cases name with
    | nil => rcases htail with rfl | ⟨rest, rfl⟩ <;> simp
    | cons c name =>
      have hc : c ≠ '*' := fun heq => hname (heq ▸ List.mem_cons_self)
      simp [hc]
  rw [hnone, List.append_nil]

theorem takeWhile_name {name tail : List Char} (hname : ':' ∉ name)
    (htail : tail = [] ∨ ∃ rest, tail = ':' :: rest) :
    (name ++ tail).takeWhile (· ≠ ':') = name := by
  rw [List.takeWhile_append_of_pos (by
    intro c hc
    simpa using fun heq : c = ':' => hname (heq ▸ hc))]
  rcases htail with rfl | ⟨rest, rfl⟩ <;> simp

theorem Role.mark_stars (r : Role) : ∀ c ∈ r.mark.toList, c = '*' := by
  cases r <;> simp [Role.mark]

/-- **A text has one mark, one name and one hint**, if names hold neither stars nor colons. -/
theorem parameter_inj {p q : Role × Param} {text : String} (hp : roleText textOf p = .ok text)
    (hq : roleText textOf q = .ok text) (hnp : ':' ∉ p.2.name.toList ∧ '*' ∉ p.2.name.toList)
    (hnq : ':' ∉ q.2.name.toList ∧ '*' ∉ q.2.name.toList) :
    p.1.mark = q.1.mark ∧ p.2.name = q.2.name ∧ p.2.hint.map textOf = q.2.hint.map textOf := by
  obtain ⟨hint, hhint, htext⟩ := roleText_ok hp
  obtain ⟨hint', hhint', htext'⟩ := roleText_ok hq
  have hmark : p.1.mark.toList = q.1.mark.toList := by
    rw [← takeWhile_stars p.1.mark_stars hnp.2 (hintText_head hint), ← htext, htext',
      takeWhile_stars q.1.mark_stars hnq.2 (hintText_head hint')]
  rw [htext, hmark] at htext'
  have hafter := List.append_cancel_left htext'
  have hname : p.2.name.toList = q.2.name.toList := by
    rw [← takeWhile_name hnp.1 (hintText_head hint), hafter,
      takeWhile_name hnq.1 (hintText_head hint')]
  rw [hname] at hafter
  refine ⟨String.toList_inj.mp hmark, String.toList_inj.mp hname, ?_⟩
  rw [hhint, hhint', hintText_inj (List.append_cancel_left hafter)]

/-! ### The texts of a list -/

/-- Parameters with the same texts, side by side. -/
theorem forall₂_of_texts {ps qs : List (Role × Param)} {texts : List String}
    (hp : ps.mapM (roleText textOf) = .ok texts) (hq : qs.mapM (roleText textOf) = .ok texts) :
    List.Forall₂ (fun p q => ∃ text, roleText textOf p = .ok text ∧ roleText textOf q = .ok text)
      ps qs := by
  have hsplit : ∀ {x : Role × Param} {xs : List (Role × Param)} {ts : List String},
      (x :: xs).mapM (roleText textOf) = .ok ts → ∃ t ts', ts = t :: ts' ∧
        roleText textOf x = .ok t ∧ xs.mapM (roleText textOf) = .ok ts' := by
    intro x xs ts h
    rw [List.mapM_cons] at h
    cases hx : roleText textOf x with
    | error fault =>
      rw [hx] at h
      cases h
    | ok t =>
      cases hxs : xs.mapM (roleText textOf) with
      | error fault =>
        rw [hx, hxs] at h
        cases h
      | ok ts' =>
        rw [hx, hxs] at h
        cases h
        exact ⟨t, ts', rfl, rfl, rfl⟩
  induction ps generalizing qs texts with
  | nil =>
    cases hp
    cases qs with
    | nil => exact .nil
    | cons q qs =>
      obtain ⟨_, _, heq, -⟩ := hsplit hq
      cases heq
  | cons p ps ih =>
    obtain ⟨t, ts, rfl, hpt, hps⟩ := hsplit hp
    cases qs with
    | nil => cases hq
    | cons q qs =>
      obtain ⟨t', ts', heq, hqt, hqs⟩ := hsplit hq
      cases heq
      exact .cons ⟨t, hpt, hqt⟩ (ih hps hqs)

namespace Params

/-- The roles stand in groups, one after the other. -/
theorem map_roles (ps : Params) :
    ps.roles.map (·.1) = Role.all.flatMap fun r => List.replicate (ps.number r) r := by
  obtain ⟨positionalOnly, positional, rest, keywordOnly, _, keywordRest, _⟩ := ps
  simp [roles, Role.all, number, Function.comp_def, List.map_const']

theorem number_eq_count (ps : Params) (r : Role) : ps.number r = (ps.roles.map (·.1)).count r := by
  rw [map_roles]
  cases r <;> simp [Role.all, List.count_replicate]

/-- The roles are those of another list if there are as many of each. -/
theorem map_roles_eq_iff {p q : Params} :
    p.roles.map (·.1) = q.roles.map (·.1) ↔ ∀ r, p.number r = q.number r := by
  constructor
  · intro h r
    rw [number_eq_count, number_eq_count, h]
  · intro h
    rw [map_roles, map_roles]
    simp only [h]

/-- The marks of the roles, one for each parameter. -/
def marks (ps : Params) : List String := ps.roles.map (·.1.mark)

theorem marks_eq (ps : Params) : ps.marks =
    List.replicate (ps.number .positionalOnly + ps.number .positional) "" ++
      (List.replicate (ps.number .rest) "*" ++ (List.replicate (ps.number .keywordOnly) "" ++
        List.replicate (ps.number .keywordRest) "**")) := by
  have hmap : ps.marks = (ps.roles.map (·.1)).map Role.mark := by
    rw [marks, List.map_map]
    rfl
  rw [hmap, map_roles, List.replicate_add]
  simp [Role.all, Role.mark, -List.replicate_append_replicate]

theorem number_rest_le (ps : Params) : ps.number .rest ≤ 1 := by
  obtain ⟨_, _, rest, _, _, _, _⟩ := ps
  cases rest <;> simp [number]

/-- The marks tell how many parameters have a role, but for the two groups that are written like
plain ones.  A starred parameter shows where the second of them begins. -/
theorem number_eq_of_marks {p q : Params} (h : p.marks = q.marks)
    (honly : p.number .positionalOnly = q.number .positionalOnly)
    (hkeyword : p.number .rest = 0 → p.number .keywordOnly = q.number .keywordOnly) (r : Role) :
    p.number r = q.number r := by
  rw [marks_eq, marks_eq] at h
  have hlength := congrArg List.length h
  have hstar := congrArg (List.count "*") h
  have hstars := congrArg (List.count "**") h
  simp [List.count_replicate] at hlength hstar hstars
  have hkeywords : p.number .keywordOnly = q.number .keywordOnly := by
    by_cases hrest : p.number .rest = 0
    · exact hkeyword hrest
    · have hle := p.number_rest_le
      have hone : p.number .rest = 1 := by omega
      have hone' : q.number .rest = 1 := by omega
      rw [hone, hone', List.replicate_one, List.singleton_append, List.singleton_append] at h
      obtain ⟨-, hafter⟩ := Sequence.append_cons_inj_of_notMem_left (by simp) (by simp) h
      have hplain := congrArg (List.count "") hafter
      simpa [List.count_replicate] using hplain
  cases r <;> omega

end Params

/-! ### The declarations of a list -/

variable {p q : Params} {texts : List String}

/-- Lists with the same texts declare the same if they have the same layout. -/
theorem declared_eq_of_layout (hp : p.texts textOf = .ok texts) (hq : q.texts textOf = .ok texts)
    (h : p.layout = q.layout) : p.declared textOf = q.declared textOf := by
  rw [Params.texts_eq] at hp hq
  have hboth := forall₂_of_texts hp hq
  unfold Params.layout at h
  unfold Params.declared
  generalize p.roles = ps at *
  generalize q.roles = qs at *
  clear hp hq
  induction hboth with
  | nil => rfl
  | cons hxy _ ih =>
    obtain ⟨text, hx, hy⟩ := hxy
    rw [List.map_cons, List.map_cons] at h ⊢
    obtain ⟨hhead, htail⟩ := List.cons.inj h
    obtain ⟨hrole, hwidth⟩ := Prod.mk.inj hhead
    rw [declared_eq_of_width hx hy hrole hwidth, ih htail]

theorem layout_eq_of_declared (h : p.declared textOf = q.declared textOf) :
    p.layout = q.layout := by
  have hparts := congrArg (List.map fun d : Declared => (d.role, d.name.length)) h
  unfold Params.declared at hparts
  rw [List.map_map, List.map_map] at hparts
  exact hparts

/-- Lists with the same texts have the same marks and names, if names hold neither stars nor
colons. -/
theorem marks_and_names_eq (hp : p.texts textOf = .ok texts) (hq : q.texts textOf = .ok texts)
    (hnp : p.Named) (hnq : q.Named) :
    p.marks = q.marks ∧ p.roles.map (·.2.name) = q.roles.map (·.2.name) := by
  rw [Params.texts_eq] at hp hq
  have hboth := forall₂_of_texts hp hq
  unfold Params.Named at hnp hnq
  unfold Params.marks
  generalize p.roles = ps at *
  generalize q.roles = qs at *
  clear hp hq
  induction hboth with
  | nil => exact ⟨rfl, rfl⟩
  | cons hxy _ ih =>
    obtain ⟨text, hx, hy⟩ := hxy
    obtain ⟨hfirst, hrest⟩ := List.forall_mem_cons.mp hnp
    obtain ⟨hfirst', hrest'⟩ := List.forall_mem_cons.mp hnq
    obtain ⟨hmark, hname, -⟩ := parameter_inj hx hy hfirst hfirst'
    obtain ⟨hmarks, hnames⟩ := ih hrest hrest'
    rw [List.map_cons, List.map_cons, List.map_cons, List.map_cons, hmark, hname, hmarks, hnames]
    exact ⟨rfl, rfl⟩

theorem Params.layout_eq (ps : Params) :
    ps.layout = (ps.roles.map (·.1)).zip ((ps.roles.map (·.2.name)).map String.length) := by
  rw [List.map_map, List.zip_map', layout]
  rfl

/-- **When parameter lists with the same texts declare the same.**  They do exactly if they have the
same layout.  Where names hold neither stars nor colons, that is if as many parameters are
positional-only in both, and as many are keyword-only; the latter only if no starred parameter
shows where these begin. -/
theorem same_declared_iff (hp : p.texts textOf = .ok texts) (hq : q.texts textOf = .ok texts) :
    (p.declared textOf = q.declared textOf ↔ p.layout = q.layout) ∧
    (p.Named → q.Named → (p.declared textOf = q.declared textOf ↔
      p.number .positionalOnly = q.number .positionalOnly ∧
        (p.number .rest = 0 → p.number .keywordOnly = q.number .keywordOnly))) := by
  refine ⟨⟨layout_eq_of_declared, declared_eq_of_layout hp hq⟩, fun hnp hnq => ⟨?_, ?_⟩⟩
  · intro h
    have hroles : p.roles.map (·.1) = q.roles.map (·.1) := by
      have hparts := congrArg (List.map Declared.role) h
      unfold Params.declared at hparts
      rw [List.map_map, List.map_map] at hparts
      exact hparts
    have hnumber := Params.map_roles_eq_iff.mp hroles
    exact ⟨hnumber .positionalOnly, fun _ => hnumber .keywordOnly⟩
  · rintro ⟨honly, hkeyword⟩
    obtain ⟨hmarks, hnames⟩ := marks_and_names_eq hp hq hnp hnq
    apply declared_eq_of_layout hp hq
    rw [Params.layout_eq, Params.layout_eq, hnames,
      Params.map_roles_eq_iff.mpr (Params.number_eq_of_marks hmarks honly hkeyword)]

/-- A parameter without a type hint. -/
def bare (name : String) : Param := .mk ⟨1, 1⟩ name none

/-- A parameter whose type hint is a name. -/
def hinted (name hint : String) : Param := .mk ⟨1, 1⟩ name (some (.name ⟨1, 1⟩ hint))

/-- A default value is no part of what is declared. -/
theorem same_declared_iff_default :
    (Params.mk [bare "a"] [hinted "b" "int"] none [bare "c"] [none] none []).texts (textAt 1)
      = .ok ["a", "b: int", "c"] ∧
    (Params.mk [bare "a"] [hinted "b" "int"] none [bare "c"] [none] none
      [.constant ⟨1, 1⟩ (.int 1) false]).texts (textAt 1) = .ok ["a", "b: int", "c"] ∧
    (Params.mk [bare "a"] [hinted "b" "int"] none [bare "c"] [none] none []).declared (textAt 1) =
      (Params.mk [bare "a"] [hinted "b" "int"] none [bare "c"] [none] none
        [.constant ⟨1, 1⟩ (.int 1) false]).declared (textAt 1) := by
  have hp : (Params.mk [bare "a"] [hinted "b" "int"] none [bare "c"] [none] none []).texts
      (textAt 1) = .ok ["a", "b: int", "c"] := by rfl
  have hq : (Params.mk [bare "a"] [hinted "b" "int"] none [bare "c"] [none] none
      [.constant ⟨1, 1⟩ (.int 1) false]).texts (textAt 1) = .ok ["a", "b: int", "c"] := by rfl
  have hnamed : ∀ defaults, (Params.mk [bare "a"] [hinted "b" "int"] none [bare "c"] [none] none
      defaults).Named := by
    simp [Params.Named, Params.roles, bare, hinted, Param.name]
  exact ⟨hp, hq, ((same_declared_iff hp hq).2 (hnamed _) (hnamed _)).mpr ⟨rfl, fun _ => rfl⟩⟩

/-- A parameter that can only be given by its name is written like any other. -/
theorem not_same_declared : ¬ ∀ (p q : Params) (texts : List String),
    p.texts (textAt 1) = .ok texts → q.texts (textAt 1) = .ok texts →
    p.declared (textAt 1) = q.declared (textAt 1) := by
  intro h
  have hsame := h (.mk [] [bare "a"] none [bare "b"] [none] none [])
    (.mk [] [bare "a", bare "b"] none [] [] none []) ["a", "b"] rfl rfl
  have hroles := congrArg (List.map Declared.role) hsame
  exact absurd hroles (by decide)

end Lineage.Source
