import Lineage.Proofs.Element.Formed
import Lineage.Proofs.Source.Positions

/-!
# The elements that are collected are well formed

Collecting goes through the statements of a file and adds elements at the end of a list. Before each
body everything is ready for it (`Ready`): the elements found so far are well formed, the enclosing
declarations are among them and cover the statements, and no element starts after a statement that
is still to come. Afterwards elements have been added that start no later than the statements end
(`Gathered`), so that everything is ready for what follows. By recursion on the statements the
elements of every file with its statements in order are well formed (`elements_wellFormed`).
-/

namespace Lineage.Source

/-! ### What has been found -/

namespace Collection
variable {c c' c'' : Collection} {i : Nat} {kind : ElementKind} {l : LineRange}

/-- The elements are well formed, and the names of variables and attributes are remembered. -/
structure Good (c : Collection) : Prop where
  wellFormed : WellFormed c.elements
  bound : keysOf .variableDecl c.elements ⊆ c.bound
  owned : keysOf .attributeDecl c.elements ⊆ c.ownNames.map fun p => (some p.1, p.2)

theorem good_empty : empty.Good :=
  ⟨wellFormed_empty, List.nil_subset _, List.nil_subset _⟩

/-- The element at a place is of a kind and covers some lines. -/
def Covers (c : Collection) (i : Nat) (kind : ElementKind) (l : LineRange) : Prop :=
  ∃ e, c.elements[i]? = some e ∧ e.kind = kind ∧ e.lines.contains l = true

/-- No element found so far starts after a line. -/
def Until (c : Collection) (line : Int) : Prop := ∀ e ∈ c.elements, e.lines.first ≤ line

/-- Elements have been added at the end, each of which starts by one of some lines. -/
structure Gathered (marks : List Int) (c c' : Collection) : Prop where
  good : c'.Good
  keeps : ∀ (i : Nat) (e : Element), c.elements[i]? = some e → c'.elements[i]? = some e
  early : ∀ e ∈ c'.elements, e ∈ c.elements ∨ ∃ line ∈ marks, e.lines.first ≤ line

theorem gathered_refl {marks : List Int} (h : c.Good) : Gathered marks c c :=
  ⟨h, fun _ _ he => he, fun _ he => .inl he⟩

theorem Gathered.mono {marks marks' : List Int} (h : Gathered marks c c')
    (hle : ∀ k ∈ marks, ∃ k' ∈ marks', k ≤ k') : Gathered marks' c c' := by
  refine ⟨h.good, h.keeps, fun e he => (h.early e he).imp_right ?_⟩
  rintro ⟨k, hk, hfirst⟩
  obtain ⟨k', hk', hle⟩ := hle k hk
  exact ⟨k', hk', Int.le_trans hfirst hle⟩

theorem Gathered.append {marks marks' : List Int} (h : Gathered marks c c')
    (h' : Gathered marks' c' c'') : Gathered (marks ++ marks') c c'' := by
  refine ⟨h'.good, fun i e he => h'.keeps i e (h.keeps i e he), fun e he => ?_⟩
  rcases h'.early e he with he | ⟨k, hk, hfirst⟩
  · rcases h.early e he with he | ⟨k, hk, hfirst⟩
    · exact .inl he
    · exact .inr ⟨k, List.mem_append_left _ hk, hfirst⟩
  · exact .inr ⟨k, List.mem_append_right _ hk, hfirst⟩

/-- Going on by the same line. -/
theorem Gathered.again {line : Int} (h : Gathered [line] c c') (h' : Gathered [line] c' c'') :
    Gathered [line] c c'' := by
  refine (h.append h').mono fun k hk => ⟨line, List.mem_singleton_self line, ?_⟩
  rcases List.mem_append.mp hk with hk | hk <;> exact Int.le_of_eq (List.mem_singleton.mp hk)

theorem Gathered.until {marks : List Int} {line : Int} (h : Gathered marks c c')
    (hline : ∀ k ∈ marks, k ≤ line) (huntil : c.Until line) : c'.Until line := by
  intro e he
  rcases h.early e he with he | ⟨k, hk, hfirst⟩
  · exact huntil e he
  · exact Int.le_trans hfirst (hline k hk)

theorem Gathered.until_same {line : Int} (h : Gathered [line] c c') (huntil : c.Until line) :
    c'.Until line :=
  h.until (fun _ hk => Int.le_of_eq (List.mem_singleton.mp hk)) huntil

theorem Covers.later {marks : List Int} (h : c.Covers i kind l) (hc : Gathered marks c c') :
    c'.Covers i kind l := by
  obtain ⟨e, he, hkind⟩ := h
  exact ⟨e, hc.keeps i e he, hkind⟩

theorem Covers.within {m : LineRange} (h : c.Covers i kind l) (hm : l.contains m = true) :
    c.Covers i kind m := by
  obtain ⟨e, he, hkind, hlines⟩ := h
  exact ⟨e, he, hkind, LineRange.contains_trans hlines hm⟩

theorem Covers.kindAt? (h : c.Covers i kind l) : c.kindAt? i = some kind := by
  obtain ⟨e, he, rfl, -⟩ := h
  rw [Collection.kindAt?, he]
  rfl

/-! ### Adding one element -/

/-- An element may be named after one that covers it. -/
theorem Covers.housed {e : Element} (h : c.Covers i kind e.lines)
    (hindex : e.index = c.elements.size) (hcontainer : e.container = some i)
    (hkind : e.kind.StandsIn kind)
    (hnamed : e.qualifiedName = c.nameAt i ++ String.singleton e.separator ++ e.name) :
    e.Housed c.elements := by
  obtain ⟨o, ho, rfl, hlines⟩ := h
  obtain ⟨hi, -⟩ := Array.getElem?_eq_some_iff.mp ho
  refine .within i o hcontainer (hindex ▸ hi) ho hkind ?_ hlines
  rw [hnamed, nameAt, ho]

/-- An element that is well formed with those before it is added. -/
theorem gathered_push {e : Element} {line : Int} (helements : c'.elements = c.elements.push e)
    (hline : e.lines.first = line) (hgood : c'.Good) : Gathered [line] c c' := by
  refine ⟨hgood, fun i a ha => ?_, fun a ha => ?_⟩
  · rw [helements]
    exact getElem?_push_of_some ha
  · rw [helements] at ha
    rcases Array.mem_push.mp ha with ha | rfl
    · exact .inl ha
    · exact .inr ⟨line, List.mem_singleton_self line, Int.le_of_eq hline⟩

section Additions

variable {t : Tree} {name : String} (h : c.Good) (huntil : c.Until t.lines.first)
include h huntil

/-- A class, a function or a block is added where it has a container. -/
theorem gathered_add {qualifiedName : String} {container : Option Nat} {signature : Signature}
    {body : List Tree} {blockType : Option String}
    (hkind : kind ≠ .variableDecl ∧ kind ≠ .attributeDecl)
    (hblock : blockType = if kind = .blockStmt then some name else none)
    (hhoused : ∀ e : Element, e.index = c.elements.size → e.kind = kind → e.name = name →
      e.qualifiedName = qualifiedName → e.container = container → e.lines = t.lines →
      e.Housed c.elements) :
    Gathered [t.lines.first] c
      (c.add t kind name qualifiedName container signature body blockType) := by
  refine gathered_push rfl rfl ⟨?_, ?_, ?_⟩
  · refine h.wellFormed.push rfl (hhoused _ rfl rfl rfl rfl rfl rfl) hblock huntil ?_ ?_
    · exact fun hvariable => absurd hvariable hkind.1
    · exact fun hattribute => absurd hattribute hkind.2
  · show keysOf _ (c.elements.push _) ⊆ c.bound
    rw [keysOf_push, if_neg hkind.1, List.append_nil]
    exact h.bound
  · show keysOf _ (c.elements.push _) ⊆ c.ownNames.map _
    rw [keysOf_push, if_neg hkind.2, List.append_nil]
    exact h.owned

/-- A variable is added to a function that covers it, or to the file, unless it is there. -/
theorem gathered_addVariable {owner : Option Nat} (hint : Option String)
    (howner : ∀ i, owner = some i → c.Covers i .methodDecl t.lines) :
    Gathered [t.lines.first] c (c.addVariable t owner hint name) := by
  unfold addVariable
  split
  · exact gathered_refl h
  · next hnew =>
    have hfresh : (owner, name) ∉ keysOf .variableDecl c.elements := fun hmem =>
      hnew (List.contains_iff_mem.mpr (h.bound hmem))
    refine gathered_push rfl rfl ⟨?_, ?_, ?_⟩
    · refine h.wellFormed.push rfl ?_ rfl huntil (fun _ => hfresh) (fun hkind => nomatch hkind)
      cases owner with
      | none => exact .alone rfl trivial rfl
      | some i => exact (howner i rfl).housed rfl rfl rfl rfl
    · show keysOf _ (c.elements.push _) ⊆ (owner, name) :: c.bound
      rw [keysOf_push, if_pos rfl]
      intro key hkey
      rcases List.mem_append.mp hkey with hkey | hkey
      · exact List.mem_cons_of_mem _ (h.bound hkey)
      · exact List.mem_singleton.mp hkey ▸ List.mem_cons_self
    · show keysOf _ (c.elements.push _) ⊆ c.ownNames.map _
      rw [keysOf_push, if_neg (fun hkind => nomatch hkind), List.append_nil]
      exact h.owned

/-- An attribute is added to a class that covers it, unless it is there. -/
theorem gathered_addOwn {owner : Nat} (hint : Option String)
    (howner : c.Covers owner .classDecl t.lines) :
    Gathered [t.lines.first] c (c.addOwn t owner hint name) := by
  unfold addOwn
  split
  · exact gathered_refl h
  · next hnew =>
    have hfresh : (some owner, name) ∉ keysOf .attributeDecl c.elements := by
      intro hmem
      obtain ⟨p, hp, heq⟩ := List.mem_map.mp (h.owned hmem)
      obtain ⟨howner, hname⟩ := Prod.mk.inj heq
      obtain rfl : p = (owner, name) := Prod.ext (Option.some.inj howner) hname
      exact hnew (List.contains_iff_mem.mpr hp)
    refine gathered_push rfl rfl ⟨?_, ?_, ?_⟩
    · exact h.wellFormed.push rfl (howner.housed rfl rfl rfl rfl) rfl huntil
        (fun hkind => nomatch hkind) (fun _ => hfresh)
    · show keysOf _ (c.elements.push _) ⊆ c.bound
      rw [keysOf_push, if_neg (fun hkind => nomatch hkind), List.append_nil]
      exact h.bound
    · show keysOf _ (c.elements.push _) ⊆ ((owner, name) :: c.ownNames).map _
      rw [keysOf_push, if_pos rfl]
      intro key hkey
      rcases List.mem_append.mp hkey with hkey | hkey
      · exact List.mem_cons_of_mem _ (h.owned hkey)
      · exact List.mem_singleton.mp hkey ▸ List.mem_cons_self

end Additions

/-- Adding one element for each name. -/
theorem gathered_foldl {line : Int} {f : Collection → String → Collection}
    (hf : ∀ c' name, Gathered [line] c c' → Gathered [line] c' (f c' name)) (names : List String)
    (h : Gathered [line] c c') : Gathered [line] c (names.foldl f c') := by
  induction names generalizing c' with
  | nil => exact h
  | cons name names ih => exact ih (h.again (hf c' name h))

end Collection

/-! ### What a computation ensures -/

/-- Whatever a computation leaves where it succeeds, from a collection. -/
def Ensures {β : Type} (c : Collection) (m : Collecting β) (post : β → Collection → Prop) : Prop :=
  ∀ b c', m c = .ok (b, c') → post b c'

section Computations

variable {β γ : Type} {c : Collection} {post : β → Collection → Prop}

theorem ensures_pure {b : β} (h : post b c) : Ensures c (pure b) post := by
  intro b' c' heq
  cases heq
  exact h

theorem ensures_set {c₁ : Collection} {post : PUnit → Collection → Prop} (h : post ⟨⟩ c₁) :
    Ensures c (set c₁ : Collecting PUnit) post := by
  intro b' c' heq
  cases heq
  exact h

theorem ensures_set_pure {c₁ : Collection} {b : β} (h : post b c₁) :
    Ensures c (do set c₁; return b) post := by
  intro b' c' heq
  cases heq
  exact h

theorem ensures_modify {f : Collection → Collection} {post : PUnit → Collection → Prop}
    (h : post ⟨⟩ (f c)) : Ensures c (modify f : Collecting PUnit) post := by
  intro b' c' heq
  cases heq
  exact h

theorem ensures_throw (f : TextFault) : Ensures c (throw f : Collecting β) post :=
  fun _ _ heq => nomatch heq

theorem Ensures.bind {m : Collecting γ} {f : γ → Collecting β} {mid : γ → Collection → Prop}
    (hm : Ensures c m mid) (hf : ∀ a c₁, mid a c₁ → Ensures c₁ (f a) post) :
    Ensures c (m >>= f) post := by
  intro b c' heq
  rcases hx : m c with fault | ⟨a, c₁⟩
  · rw [show (m >>= f) c = .error fault from by simp [Bind.bind, StateT.bind, hx, Except.bind]]
      at heq
    cases heq
  · rw [show (m >>= f) c = f a c₁ from by simp [Bind.bind, StateT.bind, hx, Except.bind]] at heq
    exact hf a c₁ (hm a c₁ hx) b c' heq

theorem Ensures.weaken {m : Collecting β} {post' : β → Collection → Prop}
    (hm : Ensures c m post) (h : ∀ b c', post b c' → post' b c') : Ensures c m post' :=
  fun b c' heq => h b c' (hm b c' heq)

theorem ensures_get_bind {f : Collection → Collecting β} (hf : Ensures c (f c) post) :
    Ensures c (get >>= f) post := hf

/-- The text of an expression adds nothing. -/
theorem ensures_text_bind {x : Except TextFault γ} {f : γ → Collecting β}
    (hf : ∀ a, Ensures c (f a) post) : Ensures c ((x : Collecting γ) >>= f) post := by
  have htext : Ensures c (x : Collecting γ) fun _ c' => c' = c := by
    intro a c' heq
    cases x with
    | error f => cases heq
    | ok a' =>
      cases heq
      rfl
  exact htext.bind fun a c' hc => hc ▸ hf a

end Computations

/-! ### Where collecting stands -/

/-- The enclosing declarations are among the elements and cover some lines. -/
def Scope.Around (scope : Scope) (c : Collection) (l : LineRange) : Prop :=
  ∀ s ∈ scope, c.Covers s.index s.kind l

/-- The class that takes up members is among the elements and covers some lines. -/
def Membership.Around (m : Membership) (c : Collection) (l : LineRange) : Prop :=
  match m with
  | none => True
  | ofClass owner | ofInitializer owner => c.Covers owner .classDecl l

open Collection (Gathered)

variable {scope : Scope} {m : Membership} {c c' : Collection} {l k : LineRange}
  {marks : List Int}

theorem Scope.Around.later (h : scope.Around c l) (hc : Gathered marks c c') :
    scope.Around c' l :=
  fun s hs => (h s hs).later hc

theorem Scope.Around.within (h : scope.Around c l) (hk : l.contains k = true) :
    scope.Around c k :=
  fun s hs => (h s hs).within hk

theorem Membership.Around.later (h : m.Around c l) (hc : Gathered marks c c') :
    m.Around c' l := by
  cases m with
  | none => exact trivial
  | ofClass owner | ofInitializer owner => exact Collection.Covers.later h hc

theorem Membership.Around.within (h : m.Around c l) (hk : l.contains k = true) :
    m.Around c k := by
  cases m with
  | none => exact trivial
  | ofClass owner | ofInitializer owner => exact Collection.Covers.within h hk

/-- The enclosing declaration that is found is of one of the kinds and covers the lines. -/
theorem Scope.Around.nearest? (h : scope.Around c l) {kinds : List ElementKind} {i : Nat}
    (hi : scope.nearest? kinds = some i) : ∃ kind ∈ kinds, c.Covers i kind l := by
  obtain ⟨s, hs, rfl⟩ := Option.map_eq_some_iff.mp hi
  have hkind := List.find?_some hs
  exact ⟨s.kind, List.contains_iff_mem.mp hkind, h s (List.mem_of_find?_eq_some hs)⟩

/-- Statements are about to be collected: they are in order, inside what encloses them, and nothing
that starts later has been found. -/
structure Ready (scope : Scope) (m : Membership) (ss : List Stmt) (c : Collection) : Prop where
  good : c.Good
  around : ∀ s ∈ ss, scope.Around c s.lines
  member : ∀ s ∈ ss, m.Around c s.lines
  order : InOrder ss
  before : ∀ s ∈ ss, c.Until s.lines.first

variable {ss rs : List Stmt} {s : Stmt}

theorem Ready.sublist (h : Ready scope m ss c) (hsub : rs.Sublist ss) : Ready scope m rs c :=
  ⟨h.good, fun r hr => h.around r (hsub.subset hr), fun r hr => h.member r (hsub.subset hr),
    h.order.sublist hsub, fun r hr => h.before r (hsub.subset hr)⟩

/-- What starts before the statements may be added. -/
theorem Ready.later (h : Ready scope m ss c) (hc : Gathered marks c c')
    (hmarks : ∀ k ∈ marks, ∀ s ∈ ss, k ≤ s.lines.first) : Ready scope m ss c' :=
  ⟨hc.good, fun s hs => (h.around s hs).later hc, fun s hs => (h.member s hs).later hc, h.order,
    fun s hs => hc.until (fun k hk => hmarks k hk s hs) (h.before s hs)⟩

/-- The last lines of statements. -/
def lastLines (ss : List Stmt) : List Int := ss.map fun s => s.lines.last

theorem lastLines_append (ss rs : List Stmt) :
    lastLines (ss ++ rs) = lastLines ss ++ lastLines rs :=
  List.map_append

/-- The next statements are collected after the first ones. -/
theorem Ready.next (h : Ready scope m (ss ++ rs) c) (hc : Gathered (lastLines ss) c c') :
    Ready scope m rs c' := by
  refine (h.sublist (List.sublist_append_right ss rs)).later hc fun k hk r hr => ?_
  obtain ⟨s, hs, rfl⟩ := List.mem_map.mp hk
  exact (List.pairwise_append.mp h.order.follow).2.2 s hs r hr

/-! ### One statement -/

section Steps

variable {t : Tree} {depth : Nat}

/-- A statement that is ready, with its node. -/
structure At (scope : Scope) (m : Membership) (s : Stmt) (t : Tree) (c : Collection) : Prop
    extends Ready scope m [s] c where
  lines : t.lines = s.lines

theorem At.inOrder (h : At scope m s t c) : s.InOrder := h.order.each s List.mem_cons_self

theorem At.until (h : At scope m s t c) : c.Until t.lines.first :=
  h.lines ▸ h.before s List.mem_cons_self

theorem At.scopeAround (h : At scope m s t c) : scope.Around c t.lines :=
  h.lines ▸ h.around s List.mem_cons_self

theorem At.memberAround (h : At scope m s t c) : m.Around c t.lines :=
  h.lines ▸ h.member s List.mem_cons_self

/-- Inside a statement, once its own element has been added. -/
theorem At.enter {scope' : Scope} {m' : Membership} (h : At scope m s t c)
    (hc : Gathered [t.lines.first] c c') (hscope : scope'.Around c' t.lines)
    (hm : m'.Around c' t.lines) : Ready scope' m' s.enclosed c' := by
  have hs := h.inOrder
  have huntil := hc.until_same h.until
  rw [h.lines] at hscope hm huntil
  refine ⟨hc.good, fun r hr => hscope.within (hs.contains hr),
    fun r hr => hm.within (hs.contains hr), hs.enclosed, fun r hr e he => ?_⟩
  exact Int.le_trans (huntil e he) (LineRange.contains_iff.mp (hs.contains hr)).1

/-- What has been found inside a statement has been found in it. -/
theorem At.leave {c₁ : Collection} (h : At scope m s t c) (hc : Gathered [t.lines.first] c c₁)
    (hc' : Gathered (lastLines s.enclosed) c₁ c') : Gathered (lastLines [s]) c c' := by
  have hs := h.inOrder
  refine (hc.append hc').mono fun k hk => ⟨s.lines.last, List.mem_singleton_self _, ?_⟩
  rcases List.mem_append.mp hk with hk | hk
  · rw [List.mem_singleton.mp hk, h.lines]
    exact hs.proper
  · obtain ⟨r, hr, rfl⟩ := List.mem_map.mp hk
    exact (LineRange.contains_iff.mp (hs.contains hr)).2

/-- After what it declares as a member, a statement can be collected like any other. -/
theorem At.plain (h : At scope m s t c) (hc : Gathered [t.lines.first] c c') :
    Ready scope .none [s] c' := by
  have hmark : ∀ k ∈ [t.lines.first], ∀ r ∈ [s], k ≤ r.lines.first := by
    intro k hk r hr
    obtain rfl := List.mem_singleton.mp hr
    exact Int.le_of_eq ((List.mem_singleton.mp hk).trans (congrArg LineRange.first h.lines))
  have hready := h.toReady.later hc hmark
  exact ⟨hready.good, hready.around, fun _ _ => trivial, hready.order, hready.before⟩

/-- A statement with nothing inside. -/
theorem At.alone (h : At scope m s t c) (hc : Gathered [t.lines.first] c c') :
    Gathered (lastLines [s]) c c' := by
  refine hc.mono fun k hk => ⟨s.lines.last, List.mem_singleton_self _, ?_⟩
  rw [List.mem_singleton.mp hk, h.lines]
  exact h.inOrder.proper

theorem Scope.Around.cons (h : scope.Around c l) {i : Nat} {kind : ElementKind}
    (hi : c.Covers i kind l) : Scope.Around (⟨i, kind⟩ :: scope) c l := by
  intro s hs
  rcases List.mem_cons.mp hs with rfl | hs
  · exact hi
  · exact h s hs

/-- An element that has just been added covers its own lines. -/
theorem Collection.covers_add (c : Collection) (t : Tree) (kind : ElementKind)
    (name qualifiedName : String) (container : Option Nat) (signature : Signature)
    (body : List Tree) (blockType : Option String) :
    (c.add t kind name qualifiedName container signature body blockType).Covers c.elements.size kind
      t.lines :=
  ⟨_, Array.getElem?_push_size, rfl,
    LineRange.contains_iff.mpr ⟨Int.le_refl _, Int.le_refl _⟩⟩

/-- Both ways to add members of a class read a hint and add one attribute for each name. -/
theorem ensures_addOwns {x : Except TextFault (Option String)} {owner : Nat} {names : List String}
    (h : At scope m s t c) (howner : c.Covers owner .classDecl t.lines) :
    Ensures c (do
      let hint ← (x : Except _ _)
      modify fun c => names.foldl (fun c n => c.addOwn t owner hint n) c)
      fun _ c' => Gathered [t.lines.first] c c' := by
  refine ensures_text_bind fun hint => ensures_modify ?_
  refine Collection.gathered_foldl (fun c' name hc => ?_) names (Collection.gathered_refl h.good)
  exact Collection.gathered_addOwn hc.good (hc.until_same h.until) hint (howner.later hc)

theorem ensures_membership (h : At scope m s t c) :
    Ensures c (m.collect depth s t) fun _ c' => Gathered [t.lines.first] c c' := by
  cases m with
  | none => exact ensures_pure (Collection.gathered_refl h.good)
  | ofClass owner | ofInitializer owner => exact ensures_addOwns h h.memberAround

/-- A variable has a function around it if it has a class or function at all, as none is added in
the body of a class. -/
theorem ensures_collectVariables (h : At scope m s t c) :
    Ensures c (collectVariables depth scope s t) fun _ c' => Gathered [t.lines.first] c c' := by
  have hnone : Gathered [t.lines.first] c c := Collection.gathered_refl h.good
  refine ensures_get_bind ?_
  dsimp only
  split
  · exact ensures_pure hnone
  · next hclass =>
    have howner : ∀ i, scope.nearest? namingKinds = some i → c.Covers i .methodDecl t.lines := by
      intro i hi
      obtain ⟨kind, hkind, hcovers⟩ := h.scopeAround.nearest? hi
      rcases List.mem_pair.mp hkind with rfl | rfl
      · rw [hi, Option.bind_some, hcovers.kindAt?] at hclass
        exact absurd rfl hclass
      · exact hcovers
    refine ensures_text_bind fun hint => ensures_set ?_
    refine Collection.gathered_foldl (fun c' name hc => ?_) s.boundNames hnone
    exact Collection.gathered_addVariable hc.good (hc.until_same h.until) hint fun i hi =>
      (howner i hi).later hc

/-- After the header of a statement everything in its scope covers its lines. -/
theorem ensures_enterBlock (h : At scope m s t c) :
    Ensures c (enterBlock depth scope s t) fun scope' c' =>
      Gathered [t.lines.first] c c' ∧ scope'.Around c' t.lines := by
  rw [enterBlock]
  split
  · next word method _ hmethod =>
    obtain ⟨kind, hkind, hcovers⟩ := h.scopeAround.nearest? hmethod
    obtain rfl := List.mem_singleton.mp hkind
    refine ensures_text_bind fun header => ensures_get_bind ?_
    have hadd : Gathered [t.lines.first] c (c.add t .blockStmt word (c.nameAt method ++ "/" ++ word)
        (some method) { header := some header } [t] (some word)) := by
      refine Collection.gathered_add h.good h.until (by decide) rfl ?_
      intro e hindex hkind hname hqualified hcontainer hlines
      refine Collection.Covers.housed (hlines ▸ hcovers) hindex hcontainer (hkind ▸ rfl) ?_
      rw [hqualified, hname, Element.separator, if_pos hkind]
      rfl
    exact ensures_set_pure ⟨hadd, (h.scopeAround.later hadd).cons (c.covers_add ..)⟩
  · exact ensures_pure ⟨Collection.gathered_refl h.good, h.scopeAround⟩

/-- A class or function is named after the class or function around it. -/
theorem ensures_enterDeclaration (h : At scope m s t c) {kind : ElementKind} {name : String}
    {signature : Signature} {body : List Tree} (hkind : kind = .classDecl ∨ kind = .methodDecl) :
    Ensures c (enterDeclaration scope kind name signature t body) fun i c' =>
      Gathered [t.lines.first] c c' ∧ c'.Covers i kind t.lines := by
  refine ensures_get_bind ?_
  have hadd : Gathered [t.lines.first] c (c.add t kind name (c.qualify scope name)
      (scope.nearest? namingKinds) signature body none) := by
    refine Collection.gathered_add h.good h.until (by rcases hkind with rfl | rfl <;> decide)
      (by rcases hkind with rfl | rfl <;> rfl) ?_
    intro e hindex hekind hname hqualified hcontainer hlines
    rw [Collection.qualify] at hqualified
    cases howner : scope.nearest? namingKinds with
    | none =>
      rw [howner] at hqualified hcontainer
      refine .alone hcontainer ?_ (hqualified.trans hname.symm)
      rcases hkind with rfl | rfl <;> rw [hekind] <;> trivial
    | some i =>
      rw [howner] at hqualified hcontainer
      obtain ⟨around, haround, hcovers⟩ := h.scopeAround.nearest? howner
      have hnoblock : e.kind ≠ .blockStmt := by
        rcases hkind with rfl | rfl <;> rw [hekind] <;> decide
      refine Collection.Covers.housed (hlines ▸ hcovers) hindex hcontainer ?_ ?_
      · rcases hkind with rfl | rfl <;> rw [hekind] <;> exact List.mem_pair.mp haround
      · rw [hqualified, hname, Element.separator, if_neg hnoblock]
        rfl
  exact ensures_set_pure ⟨hadd, c.covers_add ..⟩

/-- The class around an initializer covers it. -/
theorem At.initializer (h : At scope m s t c) (name : String) :
    (initializerOf c scope name).Around c t.lines := by
  rw [initializerOf]
  split
  · next owner howner =>
    split
    · next hclass =>
      obtain ⟨kind, -, hcovers⟩ := h.scopeAround.nearest? howner
      obtain rfl := Option.some.inj (hcovers.kindAt?.symm.trans hclass.1)
      exact hcovers
    · exact trivial
  · exact trivial

/-- The bodies of a statement are collected after its header. -/
theorem ensures_block (h : At scope m s t c) {run : Scope → Collecting Unit}
    (hrun : ∀ scope' c', Ready scope' .none s.enclosed c' →
      Ensures c' (run scope') fun _ c'' => Gathered (lastLines s.enclosed) c' c'') :
    Ensures c (enterBlock depth scope s t >>= run) fun _ c' => Gathered (lastLines [s]) c c' :=
  (ensures_enterBlock h).bind fun scope' c' hc =>
    (hrun scope' c' (h.enter hc.1 hc.2 trivial)).weaken fun _ _ => h.leave hc.1

/-- One body is collected after the other. -/
theorem ensures_next {run run' : Collecting Unit} (h : Ready scope m (ss ++ rs) c)
    (hrun : Ready scope m ss c → Ensures c run fun _ c' => Gathered (lastLines ss) c c')
    (hrun' : ∀ c', Ready scope m rs c' →
      Ensures c' run' fun _ c'' => Gathered (lastLines rs) c' c'') :
    Ensures c (do run; run') fun _ c' => Gathered (lastLines (ss ++ rs)) c c' := by
  refine (hrun (h.sublist (List.sublist_append_left ss rs))).bind fun _ c' hc => ?_
  refine (hrun' c' (h.next hc)).weaken fun _ c'' hc' => ?_
  rw [lastLines_append]
  exact hc.append hc'

/-- A body that nests too deeply is refused. -/
theorem ensures_room {run : Collecting Unit} {post : Unit → Collection → Prop}
    (hrun : Ensures c run post) :
    Ensures c (do
      if maxNesting < depth then throw .tooDeep
      run) post := by
  split
  · have hthrow : Ensures c (throw .tooDeep : Collecting PUnit) fun _ _ => False :=
      ensures_throw .tooDeep
    exact hthrow.bind fun _ _ h => h.elim
  · exact hrun

end Steps

/-! ### The statements of a file

By recursion on the statements. The scope changes at every declaration and block, so `Ready` is what
goes along; the trees are found by the lines of their outlines (`LieFirst`). -/

open Outline (LieFirst)

mutual

theorem collect_ensures (depth : Nat) {scope : Scope} {c : Collection} : ∀ (s : Stmt) {t : Tree},
    Ready scope .none [s] c → s.outline.Lies t →
      Ensures c (collect depth scope s t) fun _ c' => Gathered (lastLines [s]) c c'
  | .function l isAsync name params body decorators returns, t, h, ht => by
    have hat : At scope .none _ t c := ⟨h, lines_of_lies ht⟩
    unfold collect
    refine ensures_text_bind fun _ => ensures_text_bind fun _ => ensures_text_bind fun _ => ?_
    refine ensures_get_bind ((ensures_enterDeclaration hat (.inr rfl)).bind fun i c' hc => ?_)
    have hready := hat.enter hc.1 ((hat.scopeAround.later hc.1).cons hc.2)
      ((hat.initializer name).later hc.1)
    refine (collectAll_ensures (depth + 1) body hready ?_).weaken fun _ _ => hat.leave hc.1
    exact ht.2.drop [params.outline] (outlines decorators ++ optionalOutline returns) (by simp) rfl
  | .classDef l name bases keywords body decorators, t, h, ht => by
    have hat : At scope .none _ t c := ⟨h, lines_of_lies ht⟩
    unfold collect
    refine ensures_text_bind fun _ => ensures_text_bind fun _ => ?_
    refine (ensures_enterDeclaration hat (.inl rfl)).bind fun i c' hc => ?_
    have hready : Ready (⟨i, .classDecl⟩ :: scope) (.ofClass i) body c' :=
      hat.enter hc.1 ((hat.scopeAround.later hc.1).cons hc.2) hc.2
    refine (collectAll_ensures (depth + 1) body hready ?_).weaken fun _ _ => hat.leave hc.1
    exact ht.2.drop (outlines bases ++ keywordOutlines keywords) (outlines decorators) (by simp)
      (by simp)
  | .assign l targets value, t, h, ht | .annAssign l targets hint value simple, t, h, ht => by
    have hat : At scope .none _ t c := ⟨h, lines_of_lies ht⟩
    unfold collect
    exact (ensures_collectVariables hat).weaken fun _ _ => hat.alone
  | .conditional l test body orElse, t, h, ht | .whileLoop l test body orElse, t, h, ht => by
    unfold collect
    refine ensures_block ⟨h, lines_of_lies ht⟩ fun scope' c' hready => ensures_next hready
      (fun hbody => collectAll_ensures (depth + 1) body hbody ?_)
      fun c'' horElse => collectAll_ensures (depth + 1) orElse horElse ?_
    · exact ht.2.drop [test.outline] (stmtOutlines orElse) (by simp) rfl
    · exact ht.2.drop (test.outline :: stmtOutlines body) [] (by simp) (by simp [Nat.add_comm])
  | .forLoop l _ target source body orElse, t, h, ht => by
    unfold collect
    refine ensures_block ⟨h, lines_of_lies ht⟩ fun scope' c' hready => ensures_next hready
      (fun hbody => collectAll_ensures (depth + 1) body hbody ?_)
      fun c'' horElse => collectAll_ensures (depth + 1) orElse horElse ?_
    · exact ht.2.drop [target.outline, source.outline] (stmtOutlines orElse) (by simp) rfl
    · exact ht.2.drop (target.outline :: source.outline :: stmtOutlines body) [] (by simp)
        (by simp; omega)
  | .withBlock l _ items body, t, h, ht => by
    unfold collect
    refine ensures_block ⟨h, lines_of_lies ht⟩ fun scope' c' hready =>
      collectAll_ensures (depth + 1) body hready ?_
    exact ht.2.drop (items.map WithItem.outline) [] (by simp) (by simp)
  | .matchBlock l subject cases, t, h, ht => by
    unfold collect
    refine ensures_block ⟨h, lines_of_lies ht⟩ fun scope' c' hready =>
      collectCases_ensures (depth + 1) cases hready ?_
    exact ht.2.drop [subject.outline] [] (by simp) rfl
  | .tryBlock l _ body handlers orElse finish, t, h, ht => by
    have hrest : LieFirst
        (handlerOutlines handlers ++ stmtOutlines orElse ++ stmtOutlines finish)
        (t.children.drop body.length) :=
      ht.2.drop (stmtOutlines body) [] (by simp) (length_stmtOutlines body)
    unfold collect
    refine ensures_block ⟨h, lines_of_lies ht⟩ fun scope' c' hready => ensures_next hready
      (fun hbody => collectAll_ensures (depth + 1) body hbody ?_)
      fun c'' hready => ensures_next hready
      (fun hhandlers => collectHandlers_ensures (depth + 1) handlers hhandlers ?_)
      fun c'' hready => ensures_next hready
      (fun horElse => collectAll_ensures (depth + 1) orElse horElse ?_)
      fun c'' hfinish => collectAll_ensures (depth + 1) finish hfinish ?_
    · exact ht.2.drop [] (handlerOutlines handlers ++ stmtOutlines orElse ++ stmtOutlines finish)
        (by simp) rfl
    · exact hrest.drop [] (stmtOutlines orElse ++ stmtOutlines finish) (by simp) rfl
    · exact hrest.drop (handlerOutlines handlers) (stmtOutlines finish) (by simp) (by simp)
    · exact hrest.drop (handlerOutlines handlers ++ stmtOutlines orElse) [] (by simp) (by simp)
  | .returnValue .., _, h, _ | .delete .., _, h, _ | .augAssign .., _, h, _
  | .raiseError .., _, h, _ | .assertion .., _, h, _ | .importNames .., _, h, _
  | .importFrom .., _, h, _ | .globalNames .., _, h, _ | .nonlocalNames .., _, h, _
  | .expression .., _, h, _ | .pass _, _, h, _ | .breakLoop _, _, h, _
  | .continueLoop _, _, h, _ => ensures_pure (Collection.gathered_refl h.good)

theorem collectAll_ensures (depth : Nat) {scope : Scope} {m : Membership} {c : Collection} :
    ∀ (ss : List Stmt) {ts : List Tree}, Ready scope m ss c → LieFirst (stmtOutlines ss) ts →
      Ensures c (collectAll depth scope m ss ts) fun _ c' => Gathered (lastLines ss) c c'
  | [], _, h, _ => ensures_pure (Collection.gathered_refl h.good)
  | s :: ss, [], h, ht => ht.elim
  | s :: ss, t :: ts, h, ht => by
    unfold collectAll
    have hat : At scope m s t c :=
      ⟨h.sublist (List.singleton_sublist.mpr List.mem_cons_self), lines_of_lies ht.1⟩
    refine ensures_room ((ensures_membership hat).bind fun _ c₁ hc₁ => ?_)
    refine (collect_ensures depth s (hat.plain hc₁) ht.1).bind fun _ c₂ hc₂ => ?_
    have hs : Gathered (lastLines [s]) c c₂ := (hat.alone hc₁).again hc₂
    exact (collectAll_ensures depth ss (h.next hs) ht.2).weaken fun _ _ => hs.append

theorem collectHandlers_ensures (depth : Nat) {scope : Scope} {c : Collection} :
    ∀ (hs : List Handler) {ts : List Tree}, Ready scope .none (hs.flatMap Handler.body) c →
      LieFirst (handlerOutlines hs) ts → Ensures c (collectHandlers depth scope hs ts)
        fun _ c' => Gathered (lastLines (hs.flatMap Handler.body)) c c'
  | [], _, h, _ => ensures_pure (Collection.gathered_refl h.good)
  | .mk .. :: _, [], h, ht => ht.elim
  | .mk _ type _ body :: hs, t :: ts, h, ht => by
    unfold collectHandlers
    refine ensures_next h (fun hbody => collectAll_ensures (depth + 1) body hbody ?_)
      fun c' hrest => collectHandlers_ensures depth hs hrest ht.2
    exact ht.1.2.drop (optionalOutline type) [] (by simp) (by simp)

theorem collectCases_ensures (depth : Nat) {scope : Scope} {c : Collection} :
    ∀ (cs : List MatchCase) {ts : List Tree}, Ready scope .none (cs.flatMap MatchCase.body) c →
      LieFirst (caseOutlines cs) ts → Ensures c (collectCases depth scope cs ts)
        fun _ c' => Gathered (lastLines (cs.flatMap MatchCase.body)) c c'
  | [], _, h, _ => ensures_pure (Collection.gathered_refl h.good)
  | .mk .. :: _, [], h, ht => ht.elim
  | .mk pattern guard body :: cs, t :: ts, h, ht => by
    unfold collectCases
    refine ensures_next h (fun hbody => collectAll_ensures (depth + 1) body hbody ?_)
      fun c' hrest => collectCases_ensures depth cs hrest ht.2
    exact ht.1.2.drop (pattern.outline :: optionalOutline guard) [] (by simp)
      (by simp [Nat.add_comm])

end

/-- **The elements of a file are well formed** if the positions of its statements are nested and in
source order: each has its place as its index, stands alone or inside an earlier element that holds
it, and is named after it; they go down the file, and a variable or an attribute is declared once.
So the way outwards from an element ends, and so does the search for the method around it. -/
theorem elements_wellFormed {body : List Stmt} (hbody : InOrder body) {line : Int} {tree : Tree}
    (htree : (fileOutline body).tree? line = some tree) {es : Array Element}
    (h : elements body tree = .ok es) :
    WellFormed es ∧ ∀ m : Model, m.elements = es → ∀ e ∈ es,
      (fun e? : Option Element => e?.bind m.containerOf?)^[e.index + 1] (some e) = none ∧
      ∀ n, m.size ≤ n →
        m.methodFrom? (n + 1) (m.containerOf? e) = m.enclosingMethod? e := by
  have hready : Ready [] .none body .empty :=
    ⟨Collection.good_empty, fun _ _ _ hs => (nomatch hs), fun _ _ => trivial, hbody,
      fun _ _ _ he => (nomatch he)⟩
  have hlies : LieFirst (stmtOutlines body) tree.children := (Outline.lies_of_tree? htree).2
  have hcollected := collectAll_ensures 1 body hready hlies
  rw [elements] at h
  rcases hrun : (collectAll 1 [] .none body tree.children).run .empty with fault | ⟨u, c⟩
  · rw [hrun] at h
    cases h
  · rw [hrun] at h
    cases h
    have hwell : WellFormed c.elements := (hcollected u c hrun).good.wellFormed
    refine ⟨hwell, fun m hm e he => ?_⟩
    rw [← hm] at hwell he
    exact ⟨Model.iterate_containerOf? hwell he (Nat.lt_succ_self _),
      fun n hn => Model.methodFrom?_containerOf? hwell e hn⟩

/-- A class with an attribute of its own, one of its initializer, and a block with a variable. -/
def accountBody : List Stmt :=
  [.classDef ⟨1, 6⟩ "Account" [] []
    [.assign ⟨2, 2⟩ [.name ⟨2, 2⟩ "limit"] (.name ⟨2, 2⟩ "most"),
     .function ⟨3, 6⟩ false "__init__" (.mk [] [.mk ⟨3, 3⟩ "self" none] none [] [] none [])
       [.assign ⟨4, 4⟩ [.attr ⟨4, 4⟩ (.name ⟨4, 4⟩ "self") "total"] (.name ⟨4, 4⟩ "least"),
        .conditional ⟨5, 6⟩ (.name ⟨5, 5⟩ "debug")
          [.assign ⟨6, 6⟩ [.name ⟨6, 6⟩ "note"] (.name ⟨6, 6⟩ "least")] []] [] none] []]

theorem inOrder_accountBody : InOrder accountBody := by
  refine ⟨by decide, List.forall_mem_singleton.mpr (.mk (by decide) (by decide) (by decide) ?_)⟩
  refine List.forall_mem_cons.mpr ⟨Stmt.inOrder_of_enclosed_nil rfl (by decide), ?_⟩
  refine List.forall_mem_singleton.mpr (.mk (by decide) (by decide) (by decide) ?_)
  refine List.forall_mem_cons.mpr ⟨Stmt.inOrder_of_enclosed_nil rfl (by decide), ?_⟩
  refine List.forall_mem_singleton.mpr (.mk (by decide) (by decide) (by decide) ?_)
  exact List.forall_mem_singleton.mpr (Stmt.inOrder_of_enclosed_nil rfl (by decide))

/-- Six elements are found. -/
theorem elements_wellFormed_accountBody :
    InOrder accountBody ∧ ∃ tree es, (fileOutline accountBody).tree? 1 = some tree ∧
      elements accountBody tree = .ok es ∧ WellFormed es ∧
      es.toList.map (·.qualifiedName) = ["Account", "Account.limit", "Account.__init__",
        "Account.total", "Account.__init__/if", "Account.__init__.note"] := by
  have hnames : ((fileOutline accountBody).tree? 1).map (fun tree =>
      (elements accountBody tree).toOption.map fun es => es.toList.map (·.qualifiedName))
      = some (some ["Account", "Account.limit", "Account.__init__", "Account.total",
        "Account.__init__/if", "Account.__init__.note"]) := by
    decide +kernel
  obtain ⟨tree, htree, hnames⟩ := Option.map_eq_some_iff.mp hnames
  obtain ⟨es, hes, hnames⟩ := Option.map_eq_some_iff.mp hnames
  have hok : elements accountBody tree = .ok es := by
    cases hrun : elements accountBody tree with
    | error fault =>
      rw [hrun] at hes
      cases hes
    | ok found =>
      rw [hrun] at hes
      exact congrArg Except.ok (Option.some.inj hes)
  exact ⟨inOrder_accountBody, tree, es, htree, hok,
    (elements_wellFormed inOrder_accountBody htree hok).1, hnames⟩

end Lineage.Source
