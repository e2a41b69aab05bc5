import Lineage.Source.Model
import Lineage.Proofs.Element.Naming
import Lineage.Proofs.Source.Fields
import Mathlib.Data.List.Nodup

/-!
# The statements of a file with their nodes

`standing` pairs every statement of a body, at any depth, with the node that was made from it.

## Main statements

- `grown_of_mem_standing`: a node paired with a statement is sound and has the shape of its ast.
- `elements_preserve`: what lasts when elements are added is true of all elements of a file.
- `exists_statement`: every element of a model stands on the node of a statement of the file.
- `Model.ofBytes_indexed`: the elements of a file that has been read stand at their indices.
-/

namespace Lineage.Source

mutual

/-- The statements inside a statement with their nodes, given the node of the statement. -/
def Stmt.inside : Stmt → Tree → List (Stmt × Tree)
  | .function _ _ _ _ body _ _, t => standing body (t.children.drop 1)
  | .classDef _ _ bases keywords body _, t =>
    standing body (t.children.drop (bases.length + keywords.length))
  | .conditional _ _ body orElse, t | .whileLoop _ _ body orElse, t =>
    standing body (t.children.drop 1) ++ standing orElse (t.children.drop (1 + body.length))
  | .forLoop _ _ _ _ body orElse, t =>
    standing body (t.children.drop 2) ++ standing orElse (t.children.drop (2 + body.length))
  | .withBlock _ _ items body, t => standing body (t.children.drop items.length)
  | .matchBlock _ _ cases, t => insideCases cases (t.children.drop 1)
  | .tryBlock _ _ body handlers orElse finish, t =>
    let rest := t.children.drop body.length
    standing body t.children ++ insideHandlers handlers rest
      ++ standing orElse (rest.drop handlers.length)
      ++ standing finish (rest.drop (handlers.length + orElse.length))
  | _, _ => []

/-- The statements of a body with their nodes, which come first among those given. -/
def standing : List Stmt → List Tree → List (Stmt × Tree)
  | s :: ss, t :: ts => (s, t) :: (s.inside t ++ standing ss ts)
  | _, _ => []

/-- The statements inside `except` clauses with their nodes. -/
def insideHandlers : List Handler → List Tree → List (Stmt × Tree)
  | .mk _ type _ body :: hs, t :: ts =>
    standing body (t.children.drop type.toList.length) ++ insideHandlers hs ts
  | _, _ => []

/-- The statements inside `case` clauses with their nodes. -/
def insideCases : List MatchCase → List Tree → List (Stmt × Tree)
  | .mk _ guard body :: cs, t :: ts =>
    standing body (t.children.drop (1 + guard.toList.length)) ++ insideCases cs ts
  | _, _ => []

end

/-! ### Nodes have the shape of their statements -/

/-- A sound node of some shape. -/
def GrownFrom (shape : Shape) (t : Tree) : Prop := Tree.Sound Tree.hash t ∧ t.shape = shape

/-- The first of the nodes are sound and have the shapes of outlines. -/
def BeginWith (os : List Outline) (ts : List Tree) : Prop :=
  (∀ t ∈ ts, Tree.Sound Tree.hash t) ∧ os.map Outline.shape <+: ts.map Tree.shape

theorem beginWith_cons {o : Outline} {os : List Outline} {t : Tree} {ts : List Tree}
    (h : BeginWith (o :: os) (t :: ts)) : GrownFrom o.shape t ∧ BeginWith os ts := by
  obtain ⟨hsound, hshapes⟩ := h
  rw [List.map_cons, List.map_cons, List.cons_prefix_cons] at hshapes
  exact ⟨⟨hsound t List.mem_cons_self, hshapes.1.symm⟩,
    fun u hu => hsound u (List.mem_cons_of_mem _ hu), hshapes.2⟩

theorem BeginWith.drop {all os : List Outline} {ts : List Tree} (h : BeginWith all ts)
    (pre post : List Outline) (hall : all = pre ++ os ++ post) {k : Nat} (hk : pre.length = k) :
    BeginWith os (ts.drop k) := by
  obtain ⟨hsound, rest, hshapes⟩ := h
  refine ⟨fun t ht => hsound t (List.mem_of_mem_drop ht), post.map Outline.shape ++ rest, ?_⟩
  rw [List.map_drop, ← hshapes, hall, List.map_append, List.map_append, List.append_assoc,
    List.append_assoc, List.drop_append_of_le_length (by simp [hk]),
    List.drop_of_length_le (by simp [hk]), List.nil_append]

theorem beginWith_children {label value : String} {lines : Option LineRange} {os : List Outline}
    {t : Tree} (h : GrownFrom (Outline.node label value lines os).shape t) :
    BeginWith os t.children := by
  obtain ⟨hsound, hshape⟩ := h
  refine ⟨fun c hc => hsound.of_mem_children hc, ?_⟩
  cases t with
  | mk id label' value' lines' digest size height children =>
    rw [Tree.shape, Tree.shapes_eq_map, Outline.shape, Outline.shapes_eq_map] at hshape
    refine ⟨[], ?_⟩
    rw [List.append_nil]
    exact (Shape.node.inj hshape).2.2.symm

@[simp] theorem length_outlines (es : List Expr) : (outlines es).length = es.length := by
  induction es with
  | nil => rfl
  | cons e es ih => simp [outlines, ih]

@[simp] theorem length_optionalOutline (e : Option Expr) :
    (optionalOutline e).length = e.toList.length := by
  cases e <;> rfl

@[simp] theorem length_keywordOutlines (ks : List Keyword) :
    (keywordOutlines ks).length = ks.length := by
  induction ks with
  | nil => rfl
  | cons k ks ih =>
    cases k
    simp [keywordOutlines, ih]

@[simp] theorem length_stmtOutlines (ss : List Stmt) : (stmtOutlines ss).length = ss.length := by
  induction ss with
  | nil => rfl
  | cons s ss ih => simp [stmtOutlines, ih]

@[simp] theorem length_handlerOutlines (hs : List Handler) :
    (handlerOutlines hs).length = hs.length := by
  induction hs with
  | nil => rfl
  | cons h hs ih =>
    cases h
    simp [handlerOutlines, ih]

/-! The children of a node begin with the nodes of a body where collecting looks for them. -/

section Bodies

variable {l : LineRange} {t : Tree} {body orElse : List Stmt}

theorem beginWith_function {isAsync : Bool} {name : String} {params : Params}
    {decorators : List Expr} {returns : Option Expr}
    (h : GrownFrom (Stmt.function l isAsync name params body decorators returns).outline.shape t) :
    BeginWith (stmtOutlines body) (t.children.drop 1) :=
  (beginWith_children h).drop [params.outline] (outlines decorators ++ optionalOutline returns)
    (by simp) rfl

theorem beginWith_class {name : String} {bases : List Expr} {keywords : List Keyword}
    {decorators : List Expr}
    (h : GrownFrom (Stmt.classDef l name bases keywords body decorators).outline.shape t) :
    BeginWith (stmtOutlines body) (t.children.drop (bases.length + keywords.length)) :=
  (beginWith_children h).drop (outlines bases ++ keywordOutlines keywords) (outlines decorators)
    (by simp) (by simp)

/-- Bodies after some parts of the header. -/
theorem beginWith_branches {label : String} (parts : List Outline) {k : Nat}
    (h : GrownFrom
      (placed l label "" (parts ++ (stmtOutlines body ++ stmtOutlines orElse))).shape t)
    (hk : parts.length = k) :
    BeginWith (stmtOutlines body) (t.children.drop k) ∧
      BeginWith (stmtOutlines orElse) (t.children.drop (k + body.length)) :=
  ⟨(beginWith_children h).drop parts (stmtOutlines orElse) (by simp) hk,
    -- the second body starts where the first one ends
    (beginWith_children h).drop (parts ++ stmtOutlines body) [] (by simp) (by simp [hk])⟩

theorem beginWith_with {isAsync : Bool} {items : List WithItem}
    (h : GrownFrom (Stmt.withBlock l isAsync items body).outline.shape t) :
    BeginWith (stmtOutlines body) (t.children.drop items.length) :=
  (beginWith_children h).drop (items.map WithItem.outline) [] (by simp) (by simp)

theorem beginWith_match {subject : Expr} {cases : List MatchCase}
    (h : GrownFrom (Stmt.matchBlock l subject cases).outline.shape t) :
    BeginWith (caseOutlines cases) (t.children.drop 1) :=
  (beginWith_children h).drop [subject.outline] [] (by simp) rfl

theorem beginWith_try {isStar : Bool} {handlers : List Handler} {finish : List Stmt}
    (h : GrownFrom (Stmt.tryBlock l isStar body handlers orElse finish).outline.shape t) :
    BeginWith (stmtOutlines body) t.children ∧
      BeginWith (handlerOutlines handlers) (t.children.drop body.length) ∧
      BeginWith (stmtOutlines orElse) ((t.children.drop body.length).drop handlers.length) ∧
      BeginWith (stmtOutlines finish)
        ((t.children.drop body.length).drop (handlers.length + orElse.length)) := by
  have hc := beginWith_children h
  have hrest : BeginWith (handlerOutlines handlers ++ stmtOutlines orElse ++ stmtOutlines finish)
      (t.children.drop body.length) := hc.drop (stmtOutlines body) [] (by simp) (by simp)
  exact ⟨hc.drop [] (handlerOutlines handlers ++ stmtOutlines orElse ++ stmtOutlines finish)
      (by simp) rfl,
    hrest.drop [] (stmtOutlines orElse ++ stmtOutlines finish) (by simp) rfl,
    hrest.drop (handlerOutlines handlers) (stmtOutlines finish) (by simp) (by simp),
    hrest.drop (handlerOutlines handlers ++ stmtOutlines orElse) [] (by simp) (by simp)⟩

theorem beginWith_handler {type : Option Expr}
    (h : GrownFrom (placed l "ExceptHandler" "" (optionalOutline type ++ stmtOutlines body)).shape
      t) : BeginWith (stmtOutlines body) (t.children.drop type.toList.length) :=
  (beginWith_children h).drop (optionalOutline type) [] (by simp) (by simp)

theorem beginWith_case {pattern : Pattern} {guard : Option Expr}
    (h : GrownFrom (unplaced "match_case"
      (pattern.outline :: (optionalOutline guard ++ stmtOutlines body))).shape t) :
    BeginWith (stmtOutlines body) (t.children.drop (1 + guard.toList.length)) :=
  (beginWith_children h).drop (pattern.outline :: optionalOutline guard) [] (by simp)
    (by simp [Nat.add_comm])

end Bodies

mutual

theorem grown_of_mem_inside : ∀ (s : Stmt) {t : Tree}, GrownFrom s.outline.shape t →
    ∀ p ∈ s.inside t, GrownFrom p.1.outline.shape p.2
  | .function _ _ _ _ body _ _, _, h, p, hp => grown_of_mem_body body (beginWith_function h) p hp
  | .classDef _ _ _ _ body _, _, h, p, hp => grown_of_mem_body body (beginWith_class h) p hp
  | .conditional _ test body orElse, t, h, p, hp | .whileLoop _ test body orElse, t, h, p, hp => by
    obtain ⟨hbody, horElse⟩ := beginWith_branches [test.outline] h rfl
    rcases List.mem_append.mp hp with hp | hp
    · exact grown_of_mem_body body hbody p hp
    · exact grown_of_mem_body orElse horElse p hp
  | .forLoop _ _ target source body orElse, t, h, p, hp => by
    obtain ⟨hbody, horElse⟩ := beginWith_branches [target.outline, source.outline] h rfl
    rcases List.mem_append.mp hp with hp | hp
    · exact grown_of_mem_body body hbody p hp
    · exact grown_of_mem_body orElse horElse p hp
  | .withBlock _ _ _ body, _, h, p, hp => grown_of_mem_body body (beginWith_with h) p hp
  | .matchBlock _ _ cases, _, h, p, hp => grown_of_mem_cases cases (beginWith_match h) p hp
  | .tryBlock _ _ body handlers orElse finish, t, h, p, hp => by
    obtain ⟨hbody, hhandlers, horElse, hfinish⟩ := beginWith_try h
    rcases List.mem_append.mp hp with hp | hp
    · rcases List.mem_append.mp hp with hp | hp
      · rcases List.mem_append.mp hp with hp | hp
        · exact grown_of_mem_body body hbody p hp
        · exact grown_of_mem_handlers handlers hhandlers p hp
      · exact grown_of_mem_body orElse horElse p hp
    · exact grown_of_mem_body finish hfinish p hp
  | .returnValue .., _, _, _, hp | .delete .., _, _, _, hp | .assign .., _, _, _, hp
  | .augAssign .., _, _, _, hp | .annAssign .., _, _, _, hp | .raiseError .., _, _, _, hp
  | .assertion .., _, _, _, hp | .importNames .., _, _, _, hp | .importFrom .., _, _, _, hp
  | .globalNames .., _, _, _, hp | .nonlocalNames .., _, _, _, hp | .expression .., _, _, _, hp
  | .pass _, _, _, _, hp | .breakLoop _, _, _, _, hp | .continueLoop _, _, _, _, hp => nomatch hp

theorem grown_of_mem_body : ∀ (ss : List Stmt) {ts : List Tree},
    BeginWith (stmtOutlines ss) ts → ∀ p ∈ standing ss ts, GrownFrom p.1.outline.shape p.2
  | [], _, _, _, hp => nomatch hp
  | _ :: _, [], _, _, hp => nomatch hp
  | s :: ss, t :: ts, h, p, hp => by
    obtain ⟨ht, hts⟩ := beginWith_cons h
    rcases List.mem_cons.mp hp with rfl | hp
    · exact ht
    · rcases List.mem_append.mp hp with hp | hp
      · exact grown_of_mem_inside s ht p hp
      · exact grown_of_mem_body ss hts p hp

theorem grown_of_mem_handlers : ∀ (hs : List Handler) {ts : List Tree},
    BeginWith (handlerOutlines hs) ts →
    ∀ p ∈ insideHandlers hs ts, GrownFrom p.1.outline.shape p.2
  | [], _, _, _, hp => nomatch hp
  | .mk .. :: _, [], _, _, hp => nomatch hp
  | .mk _ _ _ body :: hs, t :: ts, h, p, hp => by
    obtain ⟨ht, hts⟩ := beginWith_cons h
    rcases List.mem_append.mp hp with hp | hp
    · exact grown_of_mem_body body (beginWith_handler ht) p hp
    · exact grown_of_mem_handlers hs hts p hp

theorem grown_of_mem_cases : ∀ (cs : List MatchCase) {ts : List Tree},
    BeginWith (caseOutlines cs) ts → ∀ p ∈ insideCases cs ts, GrownFrom p.1.outline.shape p.2
  | [], _, _, _, hp => nomatch hp
  | .mk .. :: _, [], _, _, hp => nomatch hp
  | .mk _ _ body :: cs, t :: ts, h, p, hp => by
    obtain ⟨ht, hts⟩ := beginWith_cons h
    rcases List.mem_append.mp hp with hp | hp
    · exact grown_of_mem_body body (beginWith_case ht) p hp
    · exact grown_of_mem_cases cs hts p hp

end

/-- A node paired with a statement of a file is sound and has the shape of its ast. -/
theorem grown_of_mem_standing {body : List Stmt} {line : Int} {tree : Tree}
    (htree : (fileOutline body).tree? line = some tree) :
    ∀ p ∈ standing body tree.children, GrownFrom p.1.ast.shape p.2 := by
  intro p hp
  obtain ⟨t, ht, hsound, hshape⟩ := (fileOutline body).exists_tree? line
  obtain rfl : t = tree := Option.some.inj (ht.symm.trans htree)
  rw [← p.1.shape_outline]
  exact grown_of_mem_body body (beginWith_children ⟨hsound, hshape⟩) p hp

/-! ### What collecting preserves -/

/-- A property of the elements found so far lasts when one is added at the next index, on the node
of one of some statements, and with a name that says whether it stands alone. -/
def Lasts (pairs : List (Stmt × Tree)) (P : Array Element → Prop) : Prop :=
  ∀ es e s, (s, e.tree) ∈ pairs → e.index = es.size → e.Titled → P es → P (es.push e)

/-- Collecting preserves a property of the elements found so far. -/
def Preserves {β : Type} (P : Array Element → Prop) (m : Collecting β) : Prop :=
  ∀ c b c', m c = .ok (b, c') → P c.elements → P c'.elements

variable {pairs : List (Stmt × Tree)} {P : Array Element → Prop}

theorem preserves_pure {β : Type} (b : β) : Preserves P (pure b : Collecting β) := by
  intro c b' c' h hc
  cases h
  exact hc

theorem preserves_get : Preserves P (get : Collecting Collection) := by
  intro c b' c' h hc
  cases h
  exact hc

theorem preserves_throw {β : Type} (f : TextFault) : Preserves P (throw f : Collecting β) :=
  fun _ _ _ h => nomatch h

theorem preserves_text {β : Type} (m : Except TextFault β) : Preserves P (m : Collecting β) := by
  intro c b c' h hc
  cases m with
  | error f => cases h
  | ok b' =>
    cases h
    exact hc

theorem preserves_bind {β γ : Type} {m : Collecting β} {f : β → Collecting γ} (hm : Preserves P m)
    (hf : ∀ b, Preserves P (f b)) : Preserves P (m >>= f) := by
  intro c b c' h hc
  rcases hx : m c with fault | ⟨a, c₁⟩
  · rw [show (m >>= f) c = .error fault from by simp [bind, StateT.bind, hx, Except.bind]] at h
    cases h
  · rw [show (m >>= f) c = f a c₁ from by simp [bind, StateT.bind, hx, Except.bind]] at h
    exact hf a c₁ b c' h (hm c a c₁ hx hc)

/-- Replacing the collection after reading it. -/
theorem preserves_set {c' : Collection} (h : P c'.elements) :
    Preserves P (set c' : Collecting PUnit) := by
  intro c b c₁ heq _
  cases heq
  exact h

theorem preserves_get_bind {γ : Type} {f : Collection → Collecting γ}
    (hf : ∀ c, P c.elements → Preserves P (f c)) : Preserves P (get >>= f) :=
  fun c b c' h hc => hf c hc c b c' h hc

theorem preserves_modify {f : Collection → Collection}
    (hf : ∀ c, P c.elements → P (f c).elements) :
    Preserves P (modify f : Collecting PUnit) := by
  intro c b c' h hc
  cases h
  exact hf c hc

theorem preserved_foldl {f : Collection → String → Collection}
    (hf : ∀ c name, P c.elements → P (f c name).elements) (names : List String)
    {c : Collection} (h : P c.elements) : P (names.foldl f c).elements := by
  induction names generalizing c with
  | nil => exact h
  | cons name names ih => exact ih (hf c name h)

/-- What stands in a class or function has a dot before its simple name. -/
theorem titled_dot {e : Element} {outer name : String} {i : Nat} (hkind : e.kind ≠ .blockStmt)
    (hname : e.name = name) (hqualified : e.qualifiedName = outer ++ "." ++ name)
    (hcontainer : e.container = some i) : e.Titled := by
  refine .inside (by rw [hcontainer]; nofun) outer ?_
  rw [hqualified, hname, Element.separator, if_neg hkind]
  rfl

/-- A block has a slash before its simple name. -/
theorem titled_slash {outer name : String} {i : Nat} (e : Element) (hkind : e.kind = .blockStmt)
    (hname : e.name = name) (hqualified : e.qualifiedName = outer ++ "/" ++ name)
    (hcontainer : e.container = some i) : e.Titled := by
  refine .inside (by rw [hcontainer]; nofun) outer ?_
  rw [hqualified, hname, Element.separator, if_pos hkind]
  rfl

section

variable (hP : Lasts pairs P) {s : Stmt} {t : Tree} (hs : (s, t) ∈ pairs)
include hP hs

theorem preserved_add {c : Collection} (h : P c.elements) {kind : ElementKind}
    {name qualifiedName : String} {container : Option Nat} {signature : Signature}
    {body : List Tree} {blockType : Option String}
    (htitled : ∀ e : Element, e.kind = kind → e.name = name → e.qualifiedName = qualifiedName →
      e.container = container → e.Titled) :
    P (c.add t kind name qualifiedName container signature body blockType).elements :=
  hP _ _ s hs rfl (htitled _ rfl rfl rfl rfl) h

theorem preserved_addOwn {c : Collection} (h : P c.elements) (owner : Nat)
    (hint : Option String) (name : String) : P (c.addOwn t owner hint name).elements := by
  rw [Collection.addOwn]
  split
  · exact h
  · refine preserved_add hP hs h fun e hkind hname hqualified hcontainer => ?_
    exact titled_dot (hkind ▸ nofun) hname hqualified hcontainer

theorem preserved_addVariable {c : Collection} (h : P c.elements) (owner : Option Nat)
    (hint : Option String) (name : String) : P (c.addVariable t owner hint name).elements := by
  unfold Collection.addVariable
  split
  · exact h
  · refine preserved_add hP hs h fun e hkind hname hqualified hcontainer => ?_
    cases owner with
    | none => exact .alone hcontainer (hqualified.trans hname.symm)
    | some i => exact titled_dot (hkind ▸ nofun) hname hqualified hcontainer

/-- Both ways to add members of a class read a hint and add one attribute for each name. -/
theorem preserves_addOwns {hint : Except TextFault (Option String)} {owner : Nat}
    {names : List String} : Preserves P (do
      let h ← (hint : Except _ _)
      modify fun c => names.foldl (fun c n => c.addOwn t owner h n) c) :=
  preserves_bind (preserves_text _) fun h => preserves_modify fun _ hc =>
    preserved_foldl (fun _ name hc => preserved_addOwn hP hs hc owner h name) _ hc

theorem preserves_membership {m : Membership} {depth : Nat} {s' : Stmt} :
    Preserves P (m.collect depth s' t) := by
  cases m with
  | none => exact preserves_pure ()
  | ofClass owner => exact preserves_addOwns hP hs
  | ofInitializer owner => exact preserves_addOwns hP hs

theorem preserves_collectVariables {depth : Nat} {scope : Scope} {s' : Stmt} :
    Preserves P (collectVariables depth scope s' t) := by
  refine preserves_get_bind fun c hc => ?_
  dsimp only
  split
  · exact preserves_pure ()
  · exact preserves_bind (preserves_text _) fun hint => preserves_set
      (preserved_foldl (fun _ name h => preserved_addVariable hP hs h _ hint name) _ hc)

theorem preserves_enterBlock {depth : Nat} {scope : Scope} {s' : Stmt} :
    Preserves P (enterBlock depth scope s' t) := by
  rw [enterBlock]
  split
  · exact preserves_bind (preserves_text _) fun header => preserves_get_bind fun c hc =>
      preserves_bind (preserves_set (preserved_add hP hs hc titled_slash)) fun _ => preserves_pure _
  · exact preserves_pure _

theorem preserves_enterDeclaration {scope : Scope} {kind : ElementKind} {name : String}
    {signature : Signature} {body : List Tree} (hkind : kind ≠ .blockStmt) :
    Preserves P (enterDeclaration scope kind name signature t body) := by
  refine preserves_get_bind fun c hc => preserves_bind (preserves_set (preserved_add hP hs hc ?_))
    fun _ => preserves_pure _
  intro e hekind hname hqualified hcontainer
  rw [Collection.qualify] at hqualified
  cases howner : scope.nearest? namingKinds with
  | none =>
    rw [howner] at hqualified hcontainer
    exact .alone hcontainer (hqualified.trans hname.symm)
  | some i =>
    rw [howner] at hqualified hcontainer
    exact titled_dot (hekind ▸ hkind) hname hqualified hcontainer

end

mutual

theorem preserves_collect (hP : Lasts pairs P) (depth : Nat) (scope : Scope) :
    ∀ (s : Stmt) (t : Tree), (s, t) ∈ pairs → (∀ p ∈ s.inside t, p ∈ pairs) →
      Preserves P (collect depth scope s t)
  | .function _ isAsync name params body decorators returns, t, hs, hin => by
    unfold collect
    refine preserves_bind (preserves_text _) fun _ => preserves_bind (preserves_text _) fun _ =>
      preserves_bind (preserves_text _) fun _ => preserves_bind preserves_get fun _ =>
      preserves_bind (preserves_enterDeclaration hP hs nofun) fun _ => ?_
    exact preserves_collectAll hP _ _ _ body _ hin
  | .classDef _ name bases keywords body decorators, t, hs, hin => by
    unfold collect
    refine preserves_bind (preserves_text _) fun _ => preserves_bind (preserves_text _) fun _ =>
      preserves_bind (preserves_enterDeclaration hP hs nofun) fun _ => ?_
    exact preserves_collectAll hP _ _ _ body _ hin
  | .assign l targets value, t, hs, _ => by
    unfold collect
    exact preserves_collectVariables hP hs
  | .annAssign l target hint value simple, t, hs, _ => by
    unfold collect
    exact preserves_collectVariables hP hs
  | .conditional l test body orElse, t, hs, hin | .whileLoop l test body orElse, t, hs, hin
  | .forLoop l _ target source body orElse, t, hs, hin => by
    unfold collect
    refine preserves_bind (preserves_enterBlock hP hs) fun _ => preserves_bind ?_ fun _ => ?_
    · exact preserves_collectAll hP _ _ _ body _ fun p hp => hin p (List.mem_append_left _ hp)
    · exact preserves_collectAll hP _ _ _ orElse _ fun p hp => hin p (List.mem_append_right _ hp)
  | .withBlock l _ items body, t, hs, hin => by
    unfold collect
    refine preserves_bind (preserves_enterBlock hP hs) fun _ => ?_
    exact preserves_collectAll hP _ _ _ body _ hin
  | .matchBlock l subject cases, t, hs, hin => by
    unfold collect
    refine preserves_bind (preserves_enterBlock hP hs) fun _ => ?_
    exact preserves_collectCases hP _ _ cases _ hin
  | .tryBlock l _ body handlers orElse finish, t, hs, hin => by
    unfold collect
    refine preserves_bind (preserves_enterBlock hP hs) fun _ => preserves_bind ?_ fun _ =>
      preserves_bind ?_ fun _ => preserves_bind ?_ fun _ => ?_
    · exact preserves_collectAll hP _ _ _ body _ fun p hp =>
        hin p (List.mem_append_left _ (List.mem_append_left _ (List.mem_append_left _ hp)))
    · exact preserves_collectHandlers hP _ _ handlers _ fun p hp =>
        hin p (List.mem_append_left _ (List.mem_append_left _ (List.mem_append_right _ hp)))
    · exact preserves_collectAll hP _ _ _ orElse _ fun p hp =>
        hin p (List.mem_append_left _ (List.mem_append_right _ hp))
    · exact preserves_collectAll hP _ _ _ finish _ fun p hp => hin p (List.mem_append_right _ hp)
  | .returnValue .., _, _, _ | .delete .., _, _, _ | .augAssign .., _, _, _
  | .raiseError .., _, _, _ | .assertion .., _, _, _ | .importNames .., _, _, _
  | .importFrom .., _, _, _ | .globalNames .., _, _, _ | .nonlocalNames .., _, _, _
  | .expression .., _, _, _ | .pass _, _, _, _ | .breakLoop _, _, _, _
  | .continueLoop _, _, _, _ => preserves_pure ()

theorem preserves_collectAll (hP : Lasts pairs P) (depth : Nat) (scope : Scope) (m : Membership) :
    ∀ (ss : List Stmt) (ts : List Tree), (∀ p ∈ standing ss ts, p ∈ pairs) →
      Preserves P (collectAll depth scope m ss ts)
  | [], _, _ => preserves_pure ()
  | _ :: _, [], _ => preserves_pure ()
  | s :: ss, t :: ts, h => by
    unfold collectAll
    have hs := h (s, t) List.mem_cons_self
    have hin : ∀ p ∈ s.inside t, p ∈ pairs := fun p hp =>
      h p (List.mem_cons_of_mem _ (List.mem_append_left _ hp))
    have hrest : ∀ p ∈ standing ss ts, p ∈ pairs := fun p hp =>
      h p (List.mem_cons_of_mem _ (List.mem_append_right _ hp))
    -- a body that nests too deeply is refused, which adds nothing
    have hadd : Preserves P (do
        m.collect depth s t
        collect depth scope s t
        collectAll depth scope m ss ts) :=
      preserves_bind (preserves_membership hP hs) fun _ =>
        preserves_bind (preserves_collect hP _ _ s t hs hin) fun _ =>
        preserves_collectAll hP _ _ _ ss ts hrest
    split
    · exact preserves_bind (preserves_throw _) fun _ => hadd
    · exact hadd

theorem preserves_collectHandlers (hP : Lasts pairs P) (depth : Nat) (scope : Scope) :
    ∀ (hs : List Handler) (ts : List Tree), (∀ p ∈ insideHandlers hs ts, p ∈ pairs) →
      Preserves P (collectHandlers depth scope hs ts)
  | [], _, _ => preserves_pure ()
  | .mk .. :: _, [], _ => preserves_pure ()
  | .mk _ type _ body :: hs, t :: ts, h => by
    unfold collectHandlers
    exact preserves_bind
      (preserves_collectAll hP _ _ _ body _ fun p hp => h p (List.mem_append_left _ hp)) fun _ =>
      preserves_collectHandlers hP _ _ hs ts fun p hp => h p (List.mem_append_right _ hp)

theorem preserves_collectCases (hP : Lasts pairs P) (depth : Nat) (scope : Scope) :
    ∀ (cs : List MatchCase) (ts : List Tree), (∀ p ∈ insideCases cs ts, p ∈ pairs) →
      Preserves P (collectCases depth scope cs ts)
  | [], _, _ => preserves_pure ()
  | .mk .. :: _, [], _ => preserves_pure ()
  | .mk _ guard body :: cs, t :: ts, h => by
    unfold collectCases
    exact preserves_bind
      (preserves_collectAll hP _ _ _ body _ fun p hp => h p (List.mem_append_left _ hp)) fun _ =>
      preserves_collectCases hP _ _ cs ts fun p hp => h p (List.mem_append_right _ hp)

end

/-- What lasts when elements are added on the statements of a file is true of all its elements. -/
theorem elements_preserve {body : List Stmt} {tree : Tree} {es : Array Element}
    (hP : Lasts (standing body tree.children) P) (hempty : P #[])
    (h : elements body tree = .ok es) : P es := by
  rw [elements] at h
  rcases hrun : (collectAll 1 [] .none body tree.children).run .empty with fault | ⟨u, c⟩
  · rw [hrun] at h
    cases h
  · rw [hrun] at h
    cases h
    exact preserves_collectAll hP 1 [] .none body tree.children (fun _ hp => hp) .empty u c hrun
      hempty

/-! ### Elements come from statements -/

theorem exists_statement_of_elements {body : List Stmt} {tree : Tree} {es : Array Element}
    (h : elements body tree = .ok es) :
    ∀ e ∈ es, ∃ s, (s, e.tree) ∈ standing body tree.children := by
  have hlasts : Lasts (standing body tree.children) fun es =>
      ∀ e ∈ es, ∃ s, (s, e.tree) ∈ standing body tree.children := by
    intro es e s hs _ _ hes e' he'
    rcases Array.mem_push.mp he' with he' | rfl
    · exact hes e' he'
    · exact ⟨s, hs⟩
  exact elements_preserve hlasts (fun _ he => nomatch he) h

theorem modelOf_ok {path : String} {body : List Stmt} {m : Model}
    (h : modelOf path body = .ok m) :
    (fileOutline body).tree? 1 = some m.tree ∧ elements body m.tree = .ok m.elements := by
  unfold modelOf at h
  dsimp only at h
  split at h
  · cases h
  · split at h
    · cases h
    · cases htree : (fileOutline body).tree? 1 with
      | none =>
        rw [htree] at h
        cases h
      | some tree =>
        rw [htree] at h
        dsimp only at h
        split at h
        · next es hes =>
          cases h
          exact ⟨rfl, hes⟩
        · cases h
        · cases h

/-- The statements of a file, if its bytes are a text that can be parsed. -/
def statements? (named? : List Char → Option Nat) (bytes : List UInt8) : Option (List Stmt) :=
  match Text.Utf8.decode bytes with
  | .error _ => none
  | .ok text => if text.contains '\x00' then none else (parse named? text).toOption

theorem ofBytes_of_statements {named? : List Char → Option Nat} {bytes : List UInt8}
    {body : List Stmt} (h : statements? named? bytes = some body) (path : String) :
    Model.ofBytes named? bytes path = modelOf path body := by
  unfold statements? at h
  unfold Model.ofBytes
  cases hdecode : Text.Utf8.decode bytes with
  | error f =>
    rw [hdecode] at h
    cases h
  | ok text =>
    rw [hdecode] at h
    dsimp only at h ⊢
    split at h
    · cases h
    · next hnul =>
      rw [if_neg hnul]
      cases hparse : parse named? text with
      | error f =>
        rw [hparse] at h
        cases h
      | ok b =>
        rw [hparse] at h
        cases h
        rfl

/-- Bytes that are no text, or a text that cannot be parsed, are refused with a parse fault. -/
theorem ofBytes_of_no_statements {named? : List Char → Option Nat} {bytes : List UInt8}
    (h : statements? named? bytes = none) (path : String) : ∃ reason line,
      Model.ofBytes named? bytes path = .error (.parse ⟨path, reason, line⟩) := by
  unfold statements? at h
  unfold Model.ofBytes
  cases hdecode : Text.Utf8.decode bytes with
  | error f => exact ⟨_, _, rfl⟩
  | ok text =>
    rw [hdecode] at h
    dsimp only at h ⊢
    split at h
    · next hnul =>
      rw [if_pos hnul]
      exact ⟨_, _, rfl⟩
    · next hnul =>
      rw [if_neg hnul]
      cases hparse : parse named? text with
      | error f => exact ⟨_, _, rfl⟩
      | ok b =>
        rw [hparse] at h
        cases h

theorem ofBytes_ok {named? : List Char → Option Nat} {bytes : List UInt8} {path : String}
    {m : Model} (h : Model.ofBytes named? bytes path = .ok m) :
    ∃ body, statements? named? bytes = some body ∧ modelOf path body = .ok m := by
  cases hbody : statements? named? bytes with
  | none =>
    obtain ⟨_, _, hfault⟩ := ofBytes_of_no_statements hbody path
    exact nomatch hfault.symm.trans h
  | some body => exact ⟨body, rfl, (ofBytes_of_statements hbody path).symm.trans h⟩

/-- A model is of the file that it is built for. -/
theorem path_ofBytes {named? : List Char → Option Nat} {bytes : List UInt8} {path : String}
    {m : Model} (h : Model.ofBytes named? bytes path = .ok m) : m.path = path := by
  obtain ⟨body, -, hmodel⟩ := ofBytes_ok h
  unfold modelOf at hmodel
  dsimp only at hmodel
  split at hmodel
  · cases hmodel
  split at hmodel
  · cases hmodel
  split at hmodel
  · cases hmodel
  · split at hmodel
    · cases hmodel
      rfl
    · cases hmodel
    · cases hmodel

/-- An element of the model of a body is made from a statement: it stands on its node. -/
def MadeFrom (body : List Stmt) (m : Model) (e : Element) (s : Stmt) : Prop :=
  (s, e.tree) ∈ standing body m.tree.children

/-- Every element of a model is made from a statement of its file. -/
theorem exists_statement {path : String} {body : List Stmt} {m : Model}
    (h : modelOf path body = .ok m) {e : Element} (he : e ∈ m.elements) :
    ∃ s, MadeFrom body m e s :=
  exists_statement_of_elements (modelOf_ok h).2 e he

/-- The node of an element is sound and has the shape of the ast of its statement. -/
theorem MadeFrom.grown {path : String} {body : List Stmt} {m : Model} {e : Element} {s : Stmt}
    (h : modelOf path body = .ok m) (hs : MadeFrom body m e s) : GrownFrom s.ast.shape e.tree :=
  grown_of_mem_standing (modelOf_ok h).1 (s, e.tree) hs

end Lineage.Source

/-! ### Elements stand at their indices -/

namespace Lineage.Model

/-- The indices of the elements are their places. -/
def Indexed (m : Model) : Prop := m.elements.toList.map (·.index) = List.range m.size

instance (m : Model) : Decidable m.Indexed := inferInstanceAs (Decidable (_ = List.range _))

/-- The elements of a file that has been read stand at their indices. -/
theorem ofBytes_indexed {named? : List Char → Option Nat} {bytes : List UInt8} {path : String}
    {m : Model} (h : Model.ofBytes named? bytes path = .ok m) : m.Indexed := by
  obtain ⟨body, -, hmodel⟩ := Source.ofBytes_ok h
  have hlasts : Source.Lasts (Source.standing body m.tree.children) fun es =>
      es.toList.map (·.index) = List.range es.size := by
    intro es e s _ hindex _ hes
    rw [Array.toList_push, List.map_append, hes, Array.size_push, List.range_succ, ← hindex]
    rfl
  exact Source.elements_preserve hlasts rfl (Source.modelOf_ok hmodel).2

/-- The elements of a file that has been read are named by whether they stand alone. -/
theorem ofBytes_titled {named? : List Char → Option Nat} {bytes : List UInt8} {path : String}
    {m : Model} (h : Model.ofBytes named? bytes path = .ok m) : ∀ e ∈ m.elements, e.Titled := by
  obtain ⟨body, -, hmodel⟩ := Source.ofBytes_ok h
  have hlasts : Source.Lasts (Source.standing body m.tree.children) fun es =>
      ∀ e ∈ es, e.Titled := by
    intro es e s _ _ htitled hes e' he'
    rcases Array.mem_push.mp he' with he' | rfl
    · exact hes e' he'
    · exact htitled
  exact Source.elements_preserve hlasts (fun _ he => nomatch he) (Source.modelOf_ok hmodel).2

/-- Elements of one index are one. -/
theorem Indexed.eq_of_index {m : Model} (hm : m.Indexed) {e e' : Element}
    (he : e ∈ m.elements.toList) (he' : e' ∈ m.elements.toList) (h : e.index = e'.index) :
    e = e' := by
  have hnodup : (m.elements.toList.map (·.index)).Nodup := hm ▸ List.nodup_range
  exact List.inj_on_of_nodup_map hnodup he he' h

end Lineage.Model
