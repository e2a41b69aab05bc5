import Lineage.Proofs.Source.Standing

/-!
# What the analysis of a file asks for

Collecting the elements of a file can fail for two reasons only: a statement is nested too deeply,
or an expression in a signature, in the header of a block or in a type hint has no text. The
requests of a file list both, in the order in which they are made. They are read off the statements
alone: which hints are asked for depends on the classes and functions around an assignment, not on
the elements found before it.

## Main statements

- `faultOf_elements`: collecting the elements of a file fails with the first fault of its requests,
  and succeeds if there is none.
-/

namespace Lineage.Source

/-! ### Requests -/

/-- What collecting asks for: that statements may stand at some depth, or the text of an expression
that stands there. -/
inductive Request where
  | room (depth : Nat)
  | text (depth : Nat) (e : Expr)

/-- The fault of a computation. -/
def faultOf {ε β : Type} : Except ε β → Option ε
  | .error f => some f
  | .ok _ => none

/-- The fault of a request. -/
def Request.fault? : Request → Option TextFault
  | room depth => if maxNesting < depth then some .tooDeep else none
  | text depth e => faultOf (textAt depth e)

/-- The fault of the first request that has one. -/
def firstFault (rs : List Request) : Option TextFault := rs.findSome? Request.fault?

/-- The requests for the texts of expressions at one depth. -/
def textsAt (depth : Nat) (es : List Expr) : List Request := es.map (.text depth)

/-- The type hints of parameters, in the order of a signature. -/
def Params.hints : Params → List Expr
  | .mk positionalOnly positional rest keywordOnly _ keywordRest _ =>
    (positionalOnly ++ positional ++ rest.toList ++ keywordOnly ++ keywordRest.toList).filterMap
      (·.hint)

/-- A context manager and its target. -/
def WithItem.parts (w : WithItem) : List Expr := w.context :: w.target.toList

/-- The type that a clause handles. -/
def Handler.type? : Handler → Option Expr
  | .mk _ type _ _ => type

/-- The expressions that the header of a block is made of. -/
def Stmt.headerParts : Stmt → List Expr
  | .conditional _ test _ _ | .whileLoop _ test _ _ => [test]
  | .forLoop _ _ target source _ _ => [target, source]
  | .withBlock _ _ items _ => items.flatMap WithItem.parts
  | .matchBlock _ subject _ => [subject]
  | .tryBlock _ _ _ handlers _ _ => handlers.filterMap Handler.type?
  | _ => []

/-- The requests for the header of a statement, which is a block inside functions only. `around`
are the kinds of the enclosing classes and functions, the innermost first. -/
def headerRequests (depth : Nat) (around : List ElementKind) (s : Stmt) : List Request :=
  if .methodDecl ∈ around then textsAt depth s.headerParts else []

/-- The hint that an assignment asks for as a member of a class. -/
def Membership.hint? : Membership → Stmt → Option Expr
  | none => fun _ => .none
  | ofClass _ => Stmt.boundHint?
  | ofInitializer _ => Stmt.hint?

/-- The hints that the assignments in the body of a function ask for as members of a class. -/
def memberHint? (around : List ElementKind) (name : String) : Stmt → Option Expr :=
  if around.head? = some .classDecl ∧ name = "__init__" then Stmt.hint? else fun _ => none

mutual

/-- The requests of a statement. -/
def Stmt.requests (depth : Nat) (around : List ElementKind) : Stmt → List Request
  | .function _ _ name params body decorators returns =>
    textsAt depth (decorators ++ params.hints ++ returns.toList) ++
      requestsOf (depth + 1) (.methodDecl :: around) (memberHint? around name) body
  | .classDef _ _ bases _ body decorators =>
    textsAt depth (bases ++ decorators) ++
      requestsOf (depth + 1) (.classDecl :: around) Stmt.boundHint? body
  | .annAssign l target hint value simple =>
    if around.head? = some .classDecl then []
    else textsAt depth (Stmt.annAssign l target hint value simple).boundHint?.toList
  | .conditional l test body orElse =>
    headerRequests depth around (.conditional l test body orElse) ++
      requestsOf (depth + 1) around (fun _ => none) body ++
      requestsOf (depth + 1) around (fun _ => none) orElse
  | .whileLoop l test body orElse =>
    headerRequests depth around (.whileLoop l test body orElse) ++
      requestsOf (depth + 1) around (fun _ => none) body ++
      requestsOf (depth + 1) around (fun _ => none) orElse
  | .forLoop l isAsync target source body orElse =>
    headerRequests depth around (.forLoop l isAsync target source body orElse) ++
      requestsOf (depth + 1) around (fun _ => none) body ++
      requestsOf (depth + 1) around (fun _ => none) orElse
  | .withBlock l isAsync items body =>
    headerRequests depth around (.withBlock l isAsync items body) ++
      requestsOf (depth + 1) around (fun _ => none) body
  | .matchBlock l subject cases =>
    headerRequests depth around (.matchBlock l subject cases) ++
      caseRequests (depth + 1) around cases
  | .tryBlock l isStar body handlers orElse finish =>
    headerRequests depth around (.tryBlock l isStar body handlers orElse finish) ++
      requestsOf (depth + 1) around (fun _ => none) body ++
      handlerRequests (depth + 1) around handlers ++
      requestsOf (depth + 1) around (fun _ => none) orElse ++
      requestsOf (depth + 1) around (fun _ => none) finish
  | _ => []

/-- The requests of statements that stand in one body. `member?` is the hint that each asks for as a
member of a class. -/
def requestsOf (depth : Nat) (around : List ElementKind) (member? : Stmt → Option Expr) :
    List Stmt → List Request
  | [] => []
  | s :: ss => .room depth :: (textsAt depth (member? s).toList ++ s.requests depth around ++
      requestsOf depth around member? ss)

/-- The requests of `except` clauses. -/
def handlerRequests (depth : Nat) (around : List ElementKind) : List Handler → List Request
  | [] => []
  | .mk _ _ _ body :: hs =>
    requestsOf (depth + 1) around (fun _ => none) body ++ handlerRequests depth around hs

/-- The requests of `case` clauses. -/
def caseRequests (depth : Nat) (around : List ElementKind) : List MatchCase → List Request
  | [] => []
  | .mk _ _ body :: cs =>
    requestsOf (depth + 1) around (fun _ => none) body ++ caseRequests depth around cs

end

/-- The requests of a file. -/
def fileRequests (body : List Stmt) : List Request := requestsOf 1 [] (fun _ => none) body

/-! ### The first fault -/

theorem firstFault_append (rs rs' : List Request) :
    firstFault (rs ++ rs') = (firstFault rs).or (firstFault rs') := List.findSome?_append

@[simp] theorem textsAt_nil (depth : Nat) : textsAt depth [] = [] := rfl

theorem textsAt_append (depth : Nat) (es es' : List Expr) :
    textsAt depth (es ++ es') = textsAt depth es ++ textsAt depth es' := List.map_append

theorem textsAt_flatMap {β : Type} (depth : Nat) (f : β → List Expr) (xs : List β) :
    textsAt depth (xs.flatMap f) = xs.flatMap fun x => textsAt depth (f x) := List.map_flatMap

theorem firstFault_text (depth : Nat) (e : Expr) :
    firstFault (textsAt depth [e]) = faultOf (textAt depth e) := by
  rw [textsAt, List.map_singleton, firstFault, List.findSome?_singleton, Request.fault?]

/-! ### Texts -/

section Texts

variable {β γ : Type}

theorem faultOf_bind {x : Except TextFault β} {f : β → Except TextFault γ} {rs rs' : List Request}
    (hx : faultOf x = firstFault rs) (hf : ∀ b, x = .ok b → faultOf (f b) = firstFault rs') :
    faultOf (x >>= f) = firstFault (rs ++ rs') := by
  rw [firstFault_append, ← hx]
  cases x with
  | error fault => rfl
  | ok b => exact hf b rfl

/-- What is made of a result adds no fault. -/
theorem faultOf_bind_pure {x : Except TextFault β} {g : β → γ} {rs : List Request}
    (hx : faultOf x = firstFault rs) : faultOf (x >>= fun b => pure (g b)) = firstFault rs := by
  rw [← hx]
  cases x <;> rfl

theorem faultOf_mapM {f : β → Except TextFault γ} {g : β → List Request}
    (h : ∀ x, faultOf (f x) = firstFault (g x)) (xs : List β) :
    faultOf (xs.mapM f) = firstFault (xs.flatMap g) := by
  induction xs with
  | nil => rfl
  | cons x xs ih =>
    rw [List.mapM_cons, List.flatMap_cons]
    exact faultOf_bind (h x) fun _ _ => faultOf_bind_pure ih

variable (depth : Nat)

theorem faultOf_texts (es : List Expr) :
    faultOf (es.mapM (textAt depth)) = firstFault (textsAt depth es) := by
  rw [faultOf_mapM (g := fun e => textsAt depth [e]) fun e => (firstFault_text depth e).symm,
    ← textsAt_flatMap, List.flatMap_singleton']

theorem faultOf_optionalText (e : Option Expr) :
    faultOf (e.mapM (textAt depth)) = firstFault (textsAt depth e.toList) := by
  cases e with
  | none => rfl
  | some e => exact faultOf_bind_pure (firstFault_text depth e).symm

theorem faultOf_parameterText (mark : String) (p : Param) :
    faultOf (parameterText (textAt depth) mark p) = firstFault (textsAt depth p.hint.toList) := by
  unfold parameterText
  cases p.hint with
  | none => rfl
  | some e => exact faultOf_bind_pure (firstFault_text depth e).symm

theorem faultOf_parameterTexts (mark : String) (ps : List Param) :
    faultOf (ps.mapM (parameterText (textAt depth) mark)) =
      firstFault (textsAt depth (ps.filterMap (·.hint))) := by
  rw [faultOf_mapM (faultOf_parameterText depth mark), ← textsAt_flatMap,
    List.filterMap_eq_flatMap_toList]

theorem faultOf_params (params : Params) :
    faultOf (params.texts (textAt depth)) = firstFault (textsAt depth params.hints) := by
  obtain ⟨positionalOnly, positional, rest, keywordOnly, _, keywordRest, _⟩ := params
  rw [Params.texts, Params.hints, List.filterMap_append, List.filterMap_append,
    List.filterMap_append, textsAt_append, textsAt_append, textsAt_append, List.append_assoc,
    List.append_assoc]
  refine faultOf_bind (faultOf_parameterTexts depth _ _) fun _ _ => ?_
  refine faultOf_bind (faultOf_parameterTexts depth _ _) fun _ _ => ?_
  refine faultOf_bind (faultOf_parameterTexts depth _ _) fun _ _ => ?_
  exact faultOf_bind_pure (faultOf_parameterTexts depth _ _)

theorem faultOf_withItem (w : WithItem) :
    faultOf (w.text (textAt depth)) = firstFault (textsAt depth w.parts) := by
  obtain ⟨context, target⟩ := w
  unfold WithItem.text WithItem.parts
  cases target with
  | none => exact (firstFault_text depth context).symm
  | some t =>
    exact faultOf_bind (firstFault_text depth context).symm fun _ _ =>
      faultOf_bind_pure (firstFault_text depth t).symm

theorem faultOf_handler (h : Handler) :
    faultOf (h.typeText (textAt depth)) = firstFault (textsAt depth h.type?.toList) := by
  obtain ⟨_, type, _, _⟩ := h
  cases type with
  | none => rfl
  | some e => exact faultOf_bind_pure (firstFault_text depth e).symm

/-- The header of a block fails with the first fault of its parts. -/
theorem faultOf_header (s : Stmt) :
    faultOf (s.header (textAt depth)) = firstFault (textsAt depth s.headerParts) := by
  cases s with
  | conditional _ test => exact (firstFault_text depth test).symm
  | whileLoop _ test => exact (firstFault_text depth test).symm
  | matchBlock _ subject => exact (firstFault_text depth subject).symm
  | forLoop _ _ target source =>
    exact faultOf_bind (firstFault_text depth target).symm fun _ _ =>
      faultOf_bind_pure (firstFault_text depth source).symm
  | withBlock _ _ items =>
    rw [Stmt.headerParts, textsAt_flatMap]
    exact faultOf_bind_pure (faultOf_mapM (faultOf_withItem depth) items)
  | tryBlock _ _ _ handlers =>
    rw [Stmt.headerParts, List.filterMap_eq_flatMap_toList, textsAt_flatMap]
    exact faultOf_bind_pure (faultOf_mapM (faultOf_handler depth) handlers)
  | _ => rfl

theorem Stmt.headerParts_of_not_block {s : Stmt} (h : s.blockType? = none) :
    s.headerParts = [] := by
  cases s with
  | conditional | whileLoop | forLoop | withBlock | matchBlock | tryBlock => cases h
  | _ => rfl

end Texts

/-! ### The enclosing declarations -/

/-- The kinds of the enclosing classes and functions, the innermost first. -/
def Scope.around (scope : Scope) : List ElementKind :=
  (scope.map (·.kind)).filter namingKinds.contains

/-- Every enclosing declaration is among the elements, and has its kind. -/
def Scope.Placed (scope : Scope) (c : Collection) : Prop :=
  ∀ s ∈ scope, c.kindAt? s.index = some s.kind

/-- A later collection: elements keep their places and kinds. -/
def Collection.Becomes (c c' : Collection) : Prop :=
  ∀ i kind, c.kindAt? i = some kind → c'.kindAt? i = some kind

theorem Collection.becomes_refl (c : Collection) : c.Becomes c := fun _ _ h => h

theorem Collection.Becomes.trans {c c' c'' : Collection} (h : c.Becomes c')
    (h' : c'.Becomes c'') : c.Becomes c'' := fun i kind hi => h' i kind (h i kind hi)

theorem Scope.Placed.later {scope : Scope} {c c' : Collection} (h : scope.Placed c)
    (hc : c.Becomes c') : scope.Placed c' := fun s hs => hc _ _ (h s hs)

theorem Scope.Placed.cons {scope : Scope} {c : Collection} (h : scope.Placed c) {i : Nat}
    {kind : ElementKind} (hi : c.kindAt? i = some kind) :
    Scope.Placed (⟨i, kind⟩ :: scope) c := by
  intro s hs
  rcases List.mem_cons.mp hs with rfl | hs
  · exact hi
  · exact h s hs

@[simp] theorem Scope.around_class (scope : Scope) (i : Nat) :
    Scope.around (⟨i, .classDecl⟩ :: scope) = .classDecl :: scope.around := rfl

@[simp] theorem Scope.around_method (scope : Scope) (i : Nat) :
    Scope.around (⟨i, .methodDecl⟩ :: scope) = .methodDecl :: scope.around := rfl

/-- A statement stands in a function exactly if one is around it. -/
theorem Scope.nearest?_method (scope : Scope) :
    (scope.nearest? [.methodDecl]).isSome ↔ .methodDecl ∈ scope.around := by
  simp [nearest?, around, namingKinds]

/-- The innermost class or function has the kind of the innermost one around. -/
theorem Scope.Placed.owner {scope : Scope} {c : Collection} (h : scope.Placed c) :
    (scope.nearest? namingKinds).bind c.kindAt? = scope.around.head? := by
  rw [nearest?, around, List.head?_filter, List.find?_map, Option.bind_map]
  cases hfind : scope.find? fun s => namingKinds.contains s.kind with
  | none => exact (congrArg (Option.map _) hfind).symm
  | some s =>
    exact (h s (List.mem_of_find?_eq_some hfind)).trans (congrArg (Option.map _) hfind).symm

/-- A body is that of an initializer exactly if it is called so directly in a class. -/
theorem Scope.Placed.initializer {scope : Scope} {c : Collection} (h : scope.Placed c)
    (name : String) : (initializerOf c scope name).hint? = memberHint? scope.around name := by
  rw [initializerOf, memberHint?, ← h.owner]
  cases scope.nearest? namingKinds with
  | none => rfl
  | some owner =>
    rw [Option.bind_some]
    exact apply_ite Membership.hint? _ _ _

/-! ### Collecting serves the requests -/

/-- Collecting, started with `c`, fails with the first fault of the requests and succeeds if there
is none; what it gives then satisfies `post`. -/
def Serves {β : Type} (rs : List Request) (c : Collection) (m : Collecting β)
    (post : β → Collection → Prop) : Prop :=
  faultOf (m c) = firstFault rs ∧ ∀ b c', m c = .ok (b, c') → post b c'

section Serves

variable {β γ : Type} {c : Collection} {rs rs' : List Request} {post : β → Collection → Prop}

theorem serves_pure {b : β} (h : post b c) : Serves [] c (pure b) post := by
  refine ⟨rfl, fun b' c' heq => ?_⟩
  cases heq
  exact h

theorem serves_set {c₁ : Collection} {post : PUnit → Collection → Prop} (h : post ⟨⟩ c₁) :
    Serves [] c (set c₁ : Collecting PUnit) post := by
  refine ⟨rfl, fun b' c' heq => ?_⟩
  cases heq
  exact h

theorem serves_modify {f : Collection → Collection} {post : PUnit → Collection → Prop}
    (h : post ⟨⟩ (f c)) : Serves [] c (modify f : Collecting PUnit) post := by
  refine ⟨rfl, fun b' c' heq => ?_⟩
  cases heq
  exact h

theorem Serves.bind {m : Collecting β} {f : β → Collecting γ} {post' : γ → Collection → Prop}
    (hm : Serves rs c m post) (hf : ∀ b c', post b c' → Serves rs' c' (f b) post') :
    Serves (rs ++ rs') c (m >>= f) post' := by
  have hrun : (m >>= f) c = (m c >>= fun p => f p.1 p.2) := rfl
  refine ⟨?_, fun b c' heq => ?_⟩
  · rw [hrun]
    exact faultOf_bind hm.1 fun p hp => (hf p.1 p.2 (hm.2 p.1 p.2 hp)).1
  · rw [hrun] at heq
    cases hx : m c with
    | error f =>
      rw [hx] at heq
      cases heq
    | ok p =>
      rw [hx] at heq
      exact (hf p.1 p.2 (hm.2 p.1 p.2 hx)).2 b c' heq

theorem Serves.weaken {m : Collecting β} {post' : β → Collection → Prop} (hm : Serves rs c m post)
    (h : ∀ b c', post b c' → post' b c') : Serves rs c m post' :=
  ⟨hm.1, fun b c' heq => h b c' (hm.2 b c' heq)⟩

/-- What asks for nothing comes before what serves all requests. -/
theorem Serves.before {m : Collecting β} {f : β → Collecting γ} {post' : γ → Collection → Prop}
    (hm : Serves [] c m post) (hf : ∀ b c', post b c' → Serves rs c' (f b) post') :
    Serves rs c (m >>= f) post' := hm.bind hf

theorem serves_get_bind {f : Collection → Collecting β} (hf : Serves rs c (f c) post) :
    Serves rs c (get >>= f) post := by
  have hget : Serves [] c (get : Collecting Collection) fun a c' => a = c ∧ c' = c :=
    serves_pure ⟨rfl, rfl⟩
  refine hget.before ?_
  rintro _ _ ⟨rfl, rfl⟩
  exact hf

theorem serves_text_bind {x : Except TextFault γ} {f : γ → Collecting β}
    (hx : faultOf x = firstFault rs) (hf : ∀ b, Serves rs' c (f b) post) :
    Serves (rs ++ rs') c ((x : Collecting γ) >>= f) post := by
  have htext : Serves rs c (x : Collecting γ) fun _ c' => c' = c := by
    cases x with
    | error f => exact ⟨hx, nofun⟩
    | ok b =>
      refine ⟨hx, fun b' c' heq => ?_⟩
      cases heq
      rfl
  refine htext.bind ?_
  rintro b _ rfl
  exact hf b

/-- One body after another. -/
theorem Serves.next {m m' : Collecting Unit} (hm : Serves rs c m fun _ c' => c.Becomes c')
    (hm' : ∀ c', c.Becomes c' → Serves rs' c' m' fun _ c'' => c'.Becomes c'') :
    Serves (rs ++ rs') c (m >>= fun _ => m') fun _ c' => c.Becomes c' :=
  hm.bind fun _ c' hc => (hm' c' hc).weaken fun _ _ => hc.trans

end Serves

/-! ### Elements keep their places -/

theorem Collection.becomes_of_elements {c c' : Collection}
    (h : ∀ (i : Nat) (e : Element), c.elements[i]? = some e → c'.elements[i]? = some e) :
    c.Becomes c' := by
  intro i kind hi
  obtain ⟨e, he, rfl⟩ := Option.map_eq_some_iff.mp hi
  rw [kindAt?, h i e he]
  rfl

section Additions

variable (c : Collection) (t : Tree)

theorem Collection.becomes_add (kind : ElementKind) (name qualifiedName : String)
    (container : Option Nat) (signature : Signature) (body : List Tree)
    (blockType : Option String) :
    c.Becomes (c.add t kind name qualifiedName container signature body blockType) :=
  becomes_of_elements fun i e he => by
    have hi : i < c.elements.size := (Array.getElem?_eq_some_iff.mp he).1
    rw [add, Array.getElem?_push_lt hi]
    exact (Array.getElem?_eq_getElem hi).symm.trans he

theorem Collection.kindAt?_add (kind : ElementKind) (name qualifiedName : String)
    (container : Option Nat) (signature : Signature) (body : List Tree)
    (blockType : Option String) :
    (c.add t kind name qualifiedName container signature body blockType).kindAt?
      c.elements.size = some kind := by
  rw [kindAt?, add, Array.getElem?_push_size]
  rfl

theorem Collection.becomes_addOwn (owner : Nat) (hint : Option String) (name : String) :
    c.Becomes (c.addOwn t owner hint name) := by
  rw [addOwn]
  split
  · exact c.becomes_refl
  · exact Collection.becomes_add _ t _ _ _ _ _ _ _

theorem Collection.becomes_addVariable (owner : Option Nat) (hint : Option String)
    (name : String) : c.Becomes (c.addVariable t owner hint name) := by
  unfold addVariable
  split
  · exact c.becomes_refl
  · exact Collection.becomes_add _ t _ _ _ _ _ _ _

theorem Collection.becomes_foldl {f : Collection → String → Collection}
    (hf : ∀ (c : Collection) name, c.Becomes (f c name)) (names : List String) :
    c.Becomes (names.foldl f c) := by
  induction names generalizing c with
  | nil => exact c.becomes_refl
  | cons name names ih => exact (hf c name).trans (ih (f c name))

end Additions

/-! ### One statement -/

section Steps

variable {c : Collection} {t : Tree} {depth : Nat} {scope : Scope}

/-- A body that nests too deeply is refused before its statements ask for anything. -/
theorem serves_room {m : Collecting Unit} {rs : List Request} {post : Unit → Collection → Prop}
    (hm : Serves rs c m post) :
    Serves (.room depth :: rs) c (do
      if maxNesting < depth then throw .tooDeep
      m) post := by
  by_cases hdeep : maxNesting < depth
  · have hfault : firstFault (.room depth :: rs) = some .tooDeep := by
      simp [firstFault, Request.fault?, hdeep]
    rw [if_pos hdeep]
    exact ⟨hfault.symm, nofun⟩
  · have hfault : firstFault (.room depth :: rs) = firstFault rs := by
      simp [firstFault, Request.fault?, hdeep]
    rw [if_neg hdeep]
    exact ⟨hm.1.trans hfault.symm, hm.2⟩

/-- Both ways to add members of a class ask for a hint and add one attribute for each name. -/
theorem serves_addOwns {hint : Option Expr} {owner : Nat} {names : List String} :
    Serves (textsAt depth hint.toList) c (do
      let h ← (hint.mapM (textAt depth) : Except _ _)
      modify fun c => names.foldl (fun c n => c.addOwn t owner h n) c)
      fun _ c' => c.Becomes c' := by
  rw [← List.append_nil (textsAt depth hint.toList)]
  exact serves_text_bind (faultOf_optionalText depth hint) fun h =>
    serves_modify (Collection.becomes_foldl _ (fun c n => c.becomes_addOwn t owner h n) names)

theorem serves_membership (m : Membership) (s : Stmt) :
    Serves (textsAt depth (m.hint? s).toList) c (m.collect depth s t) fun _ c' => c.Becomes c' := by
  cases m with
  | none => exact serves_pure c.becomes_refl
  | ofClass owner => exact serves_addOwns
  | ofInitializer owner => exact serves_addOwns

theorem serves_collectVariables (h : scope.Placed c) (s : Stmt) (t : Tree) :
    Serves (if scope.around.head? = some .classDecl then []
        else textsAt depth s.boundHint?.toList) c (collectVariables depth scope s t)
      fun _ c' => c.Becomes c' := by
  refine serves_get_bind ?_
  dsimp only
  rw [h.owner]
  split
  · exact serves_pure c.becomes_refl
  · rw [← List.append_nil (textsAt _ _)]
    exact serves_text_bind (faultOf_optionalText depth s.boundHint?) fun hint =>
      serves_set (Collection.becomes_foldl _
        (fun c n => c.becomes_addVariable t _ hint n) s.boundNames)

/-- Adding an element asks for nothing; the element gets the next place. -/
theorem serves_add {β : Type} (kind : ElementKind) (name qualifiedName : String)
    (container : Option Nat) (signature : Signature) (body : List Tree)
    (blockType : Option String) (b : β) :
    Serves [] c (do
      set (c.add t kind name qualifiedName container signature body blockType)
      return b)
      fun b' c' => b' = b ∧ c.Becomes c' ∧ c'.kindAt? c.elements.size = some kind := by
  have hadd := c.becomes_add t kind name qualifiedName container signature body blockType
  have hset : Serves [] c
      (set (c.add t kind name qualifiedName container signature body blockType) : Collecting PUnit)
      fun _ c' => c.Becomes c' ∧ c'.kindAt? c.elements.size = some kind :=
    serves_set ⟨hadd, c.kindAt?_add t ..⟩
  exact hset.before fun _ c' hc => serves_pure ⟨rfl, hc⟩

/-- The scope after the header of a statement has the same classes and functions. -/
theorem serves_enterBlock (h : scope.Placed c) (s : Stmt) :
    Serves (headerRequests depth scope.around s) c (enterBlock depth scope s t)
      fun scope' c' => c.Becomes c' ∧ scope'.Placed c' ∧ scope'.around = scope.around := by
  have hstay : Serves [] c (pure scope : Collecting Scope) fun scope' c' =>
      c.Becomes c' ∧ scope'.Placed c' ∧ scope'.around = scope.around :=
    serves_pure ⟨c.becomes_refl, h, rfl⟩
  have hmem := scope.nearest?_method
  rw [headerRequests, enterBlock]
  cases hword : s.blockType? with
  | none => rwa [s.headerParts_of_not_block hword, textsAt_nil, ite_self]
  | some word =>
    cases hmethod : scope.nearest? [.methodDecl] with
    | none =>
      rw [hmethod] at hmem
      rwa [if_neg (mt hmem.mpr (by simp))]
    | some method =>
      rw [hmethod] at hmem
      rw [if_pos (hmem.mp rfl), ← List.append_nil (textsAt _ _)]
      refine serves_text_bind (faultOf_header depth s) fun header => serves_get_bind ?_
      refine (serves_add ..).weaken ?_
      rintro _ c' ⟨rfl, hc, hkind⟩
      exact ⟨hc, (h.later hc).cons hkind, rfl⟩

/-- The bodies of a block are collected in the scope after its header. -/
theorem serves_block (h : scope.Placed c) (s : Stmt) {rs : List Request}
    {m : Scope → Collecting Unit} (hm : ∀ scope' c', scope'.Placed c' →
      scope'.around = scope.around → Serves rs c' (m scope') fun _ c'' => c'.Becomes c'') :
    Serves (headerRequests depth scope.around s ++ rs) c (enterBlock depth scope s t >>= m)
      fun _ c' => c.Becomes c' :=
  (serves_enterBlock h s).bind fun scope' c' hc =>
    (hm scope' c' hc.2.1 hc.2.2).weaken fun _ _ => hc.1.trans

theorem serves_enterDeclaration (h : scope.Placed c) {kind : ElementKind} {name : String}
    {signature : Signature} {body : List Tree} :
    Serves [] c (enterDeclaration scope kind name signature t body)
      fun i c' => c.Becomes c' ∧ Scope.Placed (⟨i, kind⟩ :: scope) c' := by
  refine serves_get_bind ((serves_add ..).weaken ?_)
  rintro _ c' ⟨rfl, hc, hkind⟩
  exact ⟨hc, (h.later hc).cons hkind⟩

end Steps

/-! ### The statements of a file

By recursion on the statements. What goes along is that the enclosing declarations are among the
elements found so far (`Scope.Placed`), so that their kinds are those that the requests go by. -/

mutual

theorem serves_collect (depth : Nat) {scope : Scope} {c : Collection} (h : scope.Placed c) :
    ∀ (s : Stmt) {t : Tree}, GrownFrom s.outline.shape t →
      Serves (s.requests depth scope.around) c (collect depth scope s t) fun _ c' => c.Becomes c'
  | .function _ isAsync name params body decorators returns, t, ht => by
    unfold collect Stmt.requests
    rw [textsAt_append, textsAt_append, List.append_assoc, List.append_assoc]
    refine serves_text_bind (faultOf_texts depth decorators) fun _ => ?_
    refine serves_text_bind (faultOf_params depth params) fun _ => ?_
    refine serves_text_bind (faultOf_optionalText depth returns) fun _ => serves_get_bind ?_
    refine (serves_enterDeclaration h).before fun i c' hc => ?_
    rw [← h.initializer name, ← scope.around_method i]
    exact (serves_collectAll (depth + 1) hc.2 _ body (beginWith_function ht)).weaken
      fun _ _ => hc.1.trans
  | .classDef _ name bases keywords body decorators, t, ht => by
    unfold collect Stmt.requests
    rw [textsAt_append, List.append_assoc]
    refine serves_text_bind (faultOf_texts depth bases) fun _ => ?_
    refine serves_text_bind (faultOf_texts depth decorators) fun _ => ?_
    refine (serves_enterDeclaration h).before fun i c' hc => ?_
    rw [← scope.around_class i]
    exact (serves_collectAll (depth + 1) hc.2 (.ofClass i) body (beginWith_class ht)).weaken
      fun _ _ => hc.1.trans
  | .assign l targets value, t, _ => by
    unfold collect Stmt.requests
    rw [← ite_self (c := scope.around.head? = some .classDecl) (a := ([] : List Request))]
    exact serves_collectVariables h (.assign l targets value) t
  | .annAssign l target hint value simple, t, _ => by
    unfold collect Stmt.requests
    exact serves_collectVariables h _ t
  | .conditional _ test body orElse, t, ht | .whileLoop _ test body orElse, t, ht => by
    obtain ⟨hbody, horElse⟩ := beginWith_branches [test.outline] ht rfl
    unfold collect Stmt.requests
    rw [List.append_assoc]
    refine serves_block h _ fun scope' c' h' haround => ?_
    rw [← haround]
    exact (serves_collectAll (depth + 1) h' .none body hbody).next fun c'' hc =>
      serves_collectAll (depth + 1) (h'.later hc) .none orElse horElse
  | .forLoop _ _ target source body orElse, t, ht => by
    obtain ⟨hbody, horElse⟩ := beginWith_branches [target.outline, source.outline] ht rfl
    unfold collect Stmt.requests
    rw [List.append_assoc]
    refine serves_block h _ fun scope' c' h' haround => ?_
    rw [← haround]
    exact (serves_collectAll (depth + 1) h' .none body hbody).next fun c'' hc =>
      serves_collectAll (depth + 1) (h'.later hc) .none orElse horElse
  | .withBlock _ _ items body, t, ht => by
    unfold collect Stmt.requests
    refine serves_block h _ fun scope' c' h' haround => ?_
    rw [← haround]
    exact serves_collectAll (depth + 1) h' .none body (beginWith_with ht)
  | .matchBlock _ subject cases, t, ht => by
    unfold collect Stmt.requests
    refine serves_block h _ fun scope' c' h' haround => ?_
    rw [← haround]
    exact serves_collectCases (depth + 1) h' cases (beginWith_match ht)
  | .tryBlock _ _ body handlers orElse finish, t, ht => by
    obtain ⟨hbody, hhandlers, horElse, hfinish⟩ := beginWith_try ht
    unfold collect Stmt.requests
    rw [List.append_assoc, List.append_assoc, List.append_assoc]
    refine serves_block h _ fun scope' c' h' haround => ?_
    rw [← haround]
    refine (serves_collectAll (depth + 1) h' .none body hbody).next fun c₁ hc₁ => ?_
    have h₁ := h'.later hc₁
    refine (serves_collectHandlers (depth + 1) h₁ handlers hhandlers).next fun c₂ hc₂ => ?_
    have h₂ := h₁.later hc₂
    exact (serves_collectAll (depth + 1) h₂ .none orElse horElse).next fun c₃ hc₃ =>
      serves_collectAll (depth + 1) (h₂.later hc₃) .none finish hfinish
  | .returnValue .., _, _ | .delete .., _, _ | .augAssign .., _, _
  | .raiseError .., _, _ | .assertion .., _, _ | .importNames .., _, _
  | .importFrom .., _, _ | .globalNames .., _, _ | .nonlocalNames .., _, _
  | .expression .., _, _ | .pass _, _, _ | .breakLoop _, _, _
  | .continueLoop _, _, _ => serves_pure c.becomes_refl

theorem serves_collectAll (depth : Nat) {scope : Scope} {c : Collection} (h : scope.Placed c)
    (m : Membership) : ∀ (ss : List Stmt) {ts : List Tree}, BeginWith (stmtOutlines ss) ts →
      Serves (requestsOf depth scope.around m.hint? ss) c (collectAll depth scope m ss ts)
        fun _ c' => c.Becomes c'
  | [], _, _ => serves_pure c.becomes_refl
  | s :: ss, [], hts => nomatch hts.2
  | s :: ss, t :: ts, hts => by
    obtain ⟨ht, hts⟩ := beginWith_cons hts
    unfold collectAll requestsOf
    rw [List.append_assoc]
    refine serves_room ?_
    refine (serves_membership m s).next fun c₁ hc₁ => ?_
    have h₁ := h.later hc₁
    exact (serves_collect depth h₁ s ht).next fun c₂ hc₂ =>
      serves_collectAll depth (h₁.later hc₂) m ss hts

theorem serves_collectHandlers (depth : Nat) {scope : Scope} {c : Collection}
    (h : scope.Placed c) : ∀ (hs : List Handler) {ts : List Tree},
      BeginWith (handlerOutlines hs) ts →
      Serves (handlerRequests depth scope.around hs) c (collectHandlers depth scope hs ts)
        fun _ c' => c.Becomes c'
  | [], _, _ => serves_pure c.becomes_refl
  | .mk _ type _ body :: hs, [], hts => nomatch hts.2
  | .mk _ type _ body :: hs, t :: ts, hts => by
    obtain ⟨ht, hts⟩ := beginWith_cons hts
    unfold collectHandlers handlerRequests
    exact (serves_collectAll (depth + 1) h .none body (beginWith_handler ht)).next fun c' hc =>
      serves_collectHandlers depth (h.later hc) hs hts

theorem serves_collectCases (depth : Nat) {scope : Scope} {c : Collection}
    (h : scope.Placed c) : ∀ (cs : List MatchCase) {ts : List Tree},
      BeginWith (caseOutlines cs) ts →
      Serves (caseRequests depth scope.around cs) c (collectCases depth scope cs ts)
        fun _ c' => c.Becomes c'
  | [], _, _ => serves_pure c.becomes_refl
  | .mk _ guard body :: cs, [], hts => nomatch hts.2
  | .mk pattern guard body :: cs, t :: ts, hts => by
    obtain ⟨ht, hts⟩ := beginWith_cons hts
    unfold collectCases caseRequests
    exact (serves_collectAll (depth + 1) h .none body (beginWith_case ht)).next fun c' hc =>
      serves_collectCases depth (h.later hc) cs hts

end

/-- **When the elements of a file are found.**  Collecting them fails with the first fault of the
requests of the file, and succeeds if no request has one. -/
theorem faultOf_elements {body : List Stmt} {line : Int} {tree : Tree}
    (htree : (fileOutline body).tree? line = some tree) :
    faultOf (elements body tree) = firstFault (fileRequests body) := by
  obtain ⟨t, ht, hsound, hshape⟩ := (fileOutline body).exists_tree? line
  obtain rfl : t = tree := Option.some.inj (ht.symm.trans htree)
  have hplaced : Scope.Placed [] .empty := nofun
  have hrun := serves_collectAll 1 hplaced .none body (beginWith_children ⟨hsound, hshape⟩)
  exact faultOf_bind_pure hrun.1

end Lineage.Source
