import Lineage.Proofs.Source.Requests
import Lineage.Proofs.Source.Written

/-!
# Which files have no model

A file that cannot be read, parsed or analysed for its depth is refused with a parse fault of its
path. Two files fail otherwise: one with an integer constant of more digits than are ever written,
and one that asks for the text of an expression whose embedded expressions cannot do without a
backslash.

## Main statements

- `model_or_parse_fault_iff`: **a file has a model or a parse fault exactly if it needs no text that
  cannot be written**.
- `model_or_parse_fault_of_plain`: without formatted text and huge integers that is so.
- `unwritable_hint`: a parameter hint can be such a text.
-/

namespace Lineage

open Outline

namespace Source

/-! ### Requested expressions are parts of the file -/

/-- No requested expression has a node of some kind. -/
def Avoid (p : String → String → Bool) (rs : List Request) : Prop :=
  ∀ depth e, .text depth e ∈ rs → e.outline.any p = false

section Avoid

variable {p : String → String → Bool} {depth : Nat} {around : List ElementKind}

theorem avoid_nil : Avoid p [] := nofun

theorem Avoid.append {rs rs' : List Request} (h : Avoid p rs) (h' : Avoid p rs') :
    Avoid p (rs ++ rs') := fun depth e he =>
  (List.mem_append.mp he).elim (h depth e) (h' depth e)

theorem avoid_room {rs : List Request} (h : Avoid p rs) : Avoid p (.room depth :: rs) := by
  intro depth' e he
  rcases List.mem_cons.mp he with he | he
  · cases he
  · exact h depth' e he

theorem forall_outlines {es : List Expr} (h : anyOf p (outlines es) = false) :
    ∀ e ∈ es, e.outline.any p = false := by
  induction es with
  | nil => nofun
  | cons e es ih =>
    rw [outlines, anyOf, Bool.or_eq_false_iff] at h
    exact List.forall_mem_cons.mpr ⟨h.1, ih h.2⟩

theorem avoid_texts {es : List Expr} (h : ∀ e ∈ es, e.outline.any p = false) :
    Avoid p (textsAt depth es) := by
  intro depth' e he
  obtain ⟨e', he', heq⟩ := List.mem_map.mp he
  cases heq
  exact h e he'

theorem forall_optionalOutline {e? : Option Expr} (h : anyOf p (optionalOutline e?) = false) :
    ∀ e ∈ e?.toList, e.outline.any p = false := by
  cases e? with
  | none => nofun
  | some e =>
    rw [optionalOutline, anyOf, Bool.or_eq_false_iff] at h
    exact List.forall_mem_singleton.mpr h.1

theorem forall_paramOutlines {ps : List Param} (h : anyOf p (paramOutlines ps) = false) :
    ∀ e ∈ ps.filterMap (·.hint), e.outline.any p = false := by
  induction ps with
  | nil => nofun
  | cons param ps ih =>
    obtain ⟨_, _, hint⟩ := param
    rw [paramOutlines, Param.outline, anyOf, Bool.or_eq_false_iff, any_placed,
      Bool.or_eq_false_iff] at h
    rw [List.filterMap_eq_flatMap_toList, List.flatMap_cons, ← List.filterMap_eq_flatMap_toList]
    exact List.forall_mem_append.mpr ⟨forall_optionalOutline h.1.2, ih h.2⟩

theorem paramOutlines_append (ps ps' : List Param) :
    paramOutlines (ps ++ ps') = paramOutlines ps ++ paramOutlines ps' := by
  induction ps with
  | nil => rfl
  | cons p ps ih => rw [List.cons_append, paramOutlines, paramOutlines, ih, List.cons_append]

theorem paramOutlines_toList (param : Option Param) :
    paramOutlines param.toList = optionalParamOutline param := by
  cases param <;> rfl

theorem forall_hints {params : Params} (h : params.outline.any p = false) :
    ∀ e ∈ params.hints, e.outline.any p = false := by
  obtain ⟨positionalOnly, positional, rest, keywordOnly, _, keywordRest, _⟩ := params
  simp only [Params.outline, any_unplaced, anyOf_append, Bool.or_eq_false_iff] at h
  obtain ⟨-, ⟨⟨⟨⟨⟨hpositionalOnly, hpositional⟩, hrest⟩, hkeywordOnly⟩, -⟩, hkeywordRest⟩, -⟩ := h
  refine forall_paramOutlines ?_
  simp only [paramOutlines_append, paramOutlines_toList, anyOf_append, hpositionalOnly,
    hpositional, hrest, hkeywordOnly, hkeywordRest, Bool.or_false]

theorem forall_items {items : List WithItem} (h : anyOf p (items.map WithItem.outline) = false) :
    ∀ e ∈ items.flatMap WithItem.parts, e.outline.any p = false := by
  induction items with
  | nil => nofun
  | cons w items ih =>
    simp only [List.map_cons, anyOf, WithItem.outline, any_unplaced, Bool.or_eq_false_iff] at h
    obtain ⟨⟨-, hcontext, htarget⟩, hitems⟩ := h
    rw [List.flatMap_cons]
    exact List.forall_mem_append.mpr
      ⟨List.forall_mem_cons.mpr ⟨hcontext, forall_optionalOutline htarget⟩, ih hitems⟩

theorem forall_types {handlers : List Handler} (h : anyOf p (handlerOutlines handlers) = false) :
    ∀ e ∈ handlers.filterMap Handler.type?, e.outline.any p = false := by
  induction handlers with
  | nil => nofun
  | cons handler handlers ih =>
    obtain ⟨_, type, _, _⟩ := handler
    simp only [handlerOutlines, anyOf, any_placed, anyOf_append, Bool.or_eq_false_iff] at h
    rw [List.filterMap_eq_flatMap_toList, List.flatMap_cons, ← List.filterMap_eq_flatMap_toList]
    exact List.forall_mem_append.mpr ⟨forall_optionalOutline h.1.2.1, ih h.2⟩

theorem forall_headerParts {s : Stmt} (h : s.outline.any p = false) :
    ∀ e ∈ s.headerParts, e.outline.any p = false := by
  cases s with
  | conditional | whileLoop | matchBlock =>
    simp only [Stmt.outline, any_placed, anyOf, Bool.or_eq_false_iff] at h
    exact List.forall_mem_singleton.mpr h.2.1
  | forLoop =>
    simp only [Stmt.outline, any_placed, anyOf, Bool.or_eq_false_iff] at h
    exact List.forall_mem_cons.mpr ⟨h.2.1, List.forall_mem_singleton.mpr h.2.2.1⟩
  | withBlock =>
    simp only [Stmt.outline, any_placed, anyOf_append, Bool.or_eq_false_iff] at h
    exact forall_items h.2.1
  | tryBlock =>
    simp only [Stmt.outline, any_placed, anyOf_append, Bool.or_eq_false_iff] at h
    exact forall_types h.2.1.1.2
  | _ => exact List.forall_mem_nil _

theorem avoid_header (depth : Nat) (around : List ElementKind) {s : Stmt}
    (h : s.outline.any p = false) : Avoid p (headerRequests depth around s) := by
  rw [headerRequests]
  split
  · exact avoid_texts (forall_headerParts h)
  · exact avoid_nil

/-- Hints that are parts of their statements. -/
def Within (p : String → String → Bool) (member? : Stmt → Option Expr) : Prop :=
  ∀ s : Stmt, s.outline.any p = false → ∀ e ∈ member? s, e.outline.any p = false

theorem within_none : Within p fun _ => none := nofun

theorem within_hint : Within p Stmt.hint? := by
  intro s h e he
  cases s with
  | annAssign _ target hint value =>
    simp only [Stmt.outline, any_placed, anyOf, Bool.or_eq_false_iff] at h
    cases he
    exact h.2.2.1
  | _ => cases he

theorem within_boundHint : Within p Stmt.boundHint? := by
  intro s h e he
  cases s with
  | annAssign l target hint value simple =>
    refine within_hint _ h e ?_
    cases target with
    | name => exact he
    | _ => cases he
  | _ => cases he

theorem within_memberHint (name : String) : Within p (memberHint? around name) := by
  rw [memberHint?]
  split
  · exact within_hint
  · exact within_none

mutual

theorem avoid_requests (depth : Nat) (around : List ElementKind) : ∀ s : Stmt,
    s.outline.any p = false → Avoid p (s.requests depth around)
  | .function _ _ name params body decorators returns, h => by
    simp only [Stmt.outline, any_placed, anyOf, anyOf_append, Bool.or_eq_false_iff] at h
    obtain ⟨-, hparams, ⟨hbody, hdecorators⟩, hreturns⟩ := h
    rw [Stmt.requests, textsAt_append, textsAt_append]
    exact (((avoid_texts (forall_outlines hdecorators)).append
      (avoid_texts (forall_hints hparams))).append
      (avoid_texts (forall_optionalOutline hreturns))).append
      (avoid_requestsOf _ _ (within_memberHint name) body hbody)
  | .classDef _ _ bases _ body decorators, h => by
    simp only [Stmt.outline, any_placed, anyOf_append, Bool.or_eq_false_iff] at h
    obtain ⟨-, ⟨⟨hbases, -⟩, hbody⟩, hdecorators⟩ := h
    rw [Stmt.requests, textsAt_append]
    exact ((avoid_texts (forall_outlines hbases)).append
      (avoid_texts (forall_outlines hdecorators))).append
      (avoid_requestsOf _ _ within_boundHint body hbody)
  | .annAssign l target hint value simple, h => by
    rw [Stmt.requests]
    split
    · exact avoid_nil
    · exact avoid_texts fun e he => within_boundHint _ h e (Option.mem_toList.mp he)
  | .conditional _ _ body orElse, h | .whileLoop _ _ body orElse, h => by
    have hheader := avoid_header depth around h
    simp only [Stmt.outline, any_placed, anyOf, anyOf_append, Bool.or_eq_false_iff] at h
    rw [Stmt.requests]
    exact (hheader.append (avoid_requestsOf _ _ within_none body h.2.2.1)).append
      (avoid_requestsOf _ _ within_none orElse h.2.2.2)
  | .forLoop _ _ _ _ body orElse, h => by
    have hheader := avoid_header depth around h
    simp only [Stmt.outline, any_placed, anyOf, anyOf_append, Bool.or_eq_false_iff] at h
    rw [Stmt.requests]
    exact (hheader.append (avoid_requestsOf _ _ within_none body h.2.2.2.1)).append
      (avoid_requestsOf _ _ within_none orElse h.2.2.2.2)
  | .withBlock _ _ _ body, h => by
    have hheader := avoid_header depth around h
    simp only [Stmt.outline, any_placed, anyOf_append, Bool.or_eq_false_iff] at h
    rw [Stmt.requests]
    exact hheader.append (avoid_requestsOf _ _ within_none body h.2.2)
  | .matchBlock _ _ cases, h => by
    have hheader := avoid_header depth around h
    simp only [Stmt.outline, any_placed, anyOf, Bool.or_eq_false_iff] at h
    rw [Stmt.requests]
    exact hheader.append (avoid_caseRequests _ _ cases h.2.2)
  | .tryBlock _ _ body handlers orElse finish, h => by
    have hheader := avoid_header depth around h
    simp only [Stmt.outline, any_placed, anyOf_append, Bool.or_eq_false_iff] at h
    obtain ⟨-, ⟨⟨hbody, hhandlers⟩, horElse⟩, hfinish⟩ := h
    rw [Stmt.requests]
    exact (((hheader.append (avoid_requestsOf _ _ within_none body hbody)).append
      (avoid_handlerRequests _ _ handlers hhandlers)).append
      (avoid_requestsOf _ _ within_none orElse horElse)).append
      (avoid_requestsOf _ _ within_none finish hfinish)
  | .returnValue .., _ | .delete .., _ | .assign .., _ | .augAssign .., _ | .raiseError .., _
  | .assertion .., _ | .importNames .., _ | .importFrom .., _ | .globalNames .., _
  | .nonlocalNames .., _ | .expression .., _ | .pass _, _ | .breakLoop _, _
  | .continueLoop _, _ => avoid_nil

theorem avoid_requestsOf (depth : Nat) (around : List ElementKind) {member? : Stmt → Option Expr}
    (hmember : Within p member?) : ∀ ss : List Stmt, anyOf p (stmtOutlines ss) = false →
    Avoid p (requestsOf depth around member? ss)
  | [], _ => avoid_nil
  | s :: ss, h => by
    rw [stmtOutlines, anyOf, Bool.or_eq_false_iff] at h
    rw [requestsOf]
    exact avoid_room (((avoid_texts fun e he => hmember s h.1 e (Option.mem_toList.mp he)).append
      (avoid_requests depth around s h.1)).append (avoid_requestsOf depth around hmember ss h.2))

theorem avoid_handlerRequests (depth : Nat) (around : List ElementKind) : ∀ hs : List Handler,
    anyOf p (handlerOutlines hs) = false → Avoid p (handlerRequests depth around hs)
  | [], _ => avoid_nil
  | .mk _ type _ body :: hs, h => by
    simp only [handlerOutlines, anyOf, any_placed, anyOf_append, Bool.or_eq_false_iff] at h
    rw [handlerRequests]
    exact (avoid_requestsOf _ _ within_none body h.1.2.2).append
      (avoid_handlerRequests depth around hs h.2)

theorem avoid_caseRequests (depth : Nat) (around : List ElementKind) : ∀ cs : List MatchCase,
    anyOf p (caseOutlines cs) = false → Avoid p (caseRequests depth around cs)
  | [], _ => avoid_nil
  | .mk pattern guard body :: cs, h => by
    simp only [caseOutlines, anyOf, any_unplaced, anyOf_append, Bool.or_eq_false_iff] at h
    rw [caseRequests]
    exact (avoid_requestsOf _ _ within_none body h.1.2.2.2).append
      (avoid_caseRequests depth around cs h.2)

end

end Avoid

/-! ### Texts that cannot be written -/

theorem fault?_text_iff {depth : Nat} {e : Expr} :
    (Request.text depth e).fault? = some .backslash ↔
      depth + e.outline.height ≤ maxNesting ∧ e.text = .error .backslash := by
  rw [Request.fault?, textAt]
  split
  · next hdeep => simp [faultOf, Nat.not_le.mpr hdeep]
  · next hfits =>
    cases e.text with
    | ok s => simp [faultOf]
    | error f => simp [faultOf, Nat.not_lt.mp hfits]

/-- Among the requests is one for a text that cannot be written, and all before it are met. -/
def AsksUnwritable (rs : List Request) : Prop :=
  ∃ before depth e after, rs = before ++ .text depth e :: after ∧
    (∀ r ∈ before, r.fault? = none) ∧ depth + e.outline.height ≤ maxNesting ∧
    e.text = .error .backslash

theorem firstFault_eq_backslash_iff {rs : List Request} :
    firstFault rs = some .backslash ↔ AsksUnwritable rs := by
  rw [firstFault, List.findSome?_eq_some_iff]
  constructor
  · rintro ⟨before, r, after, hrs, hfault, hbefore⟩
    cases r with
    | room depth =>
      rw [Request.fault?] at hfault
      split at hfault <;> cases hfault
    | text depth e => exact ⟨before, depth, e, after, hrs, hbefore, fault?_text_iff.mp hfault⟩
  · rintro ⟨before, depth, e, after, hrs, hbefore, htext⟩
    exact ⟨before, .text depth e, after, hrs, fault?_text_iff.mpr htext, hbefore⟩

/-- A text that a file needs cannot be written: that of an integer with too many digits, or one that
collecting asks for. The file is not nested too deeply to be analysed. -/
def Unwritable (body : List Stmt) : Prop :=
  (fileOutline body).height ≤ maxHeight ∧
    ((fileOutline body).any isHugeInteger = true ∨ AsksUnwritable (fileRequests body))

/-- Only embedded expressions and huge integers cannot be written. -/
theorem not_unwritable_of_plain {body : List Stmt}
    (hembedding : (fileOutline body).any isEmbedding = false)
    (hhuge : (fileOutline body).any isHugeInteger = false) : ¬ Unwritable body := by
  rintro ⟨-, hinteger | ⟨before, depth, e, after, hrs, -, -, htext⟩⟩
  · exact Bool.false_ne_true (hhuge.symm.trans hinteger)
  · rw [fileOutline, any_unplaced, Bool.or_eq_false_iff] at hembedding
    have havoid := avoid_requestsOf 1 [] within_none body hembedding.2
    have he := havoid depth e (by
      rw [← fileRequests, hrs]
      exact List.mem_append_right _ List.mem_cons_self)
    obtain ⟨s, hs⟩ := Printer.written_text false e he .test
    exact nomatch htext.symm.trans hs

/-! ### Models and parse faults -/

/-- A model, or a parse fault of a path. -/
def ModelOrParseFault (path : String) (r : Except ModelFault Model) : Prop :=
  (∃ m, r = .ok m) ∨ ∃ fault : ParseFault, fault.path = path ∧ r = .error (.parse fault)

theorem modelOf_iff {path : String} {body : List Stmt} :
    ModelOrParseFault path (modelOf path body) ↔ ¬ Unwritable body := by
  have hfault : ∀ reason,
      ModelOrParseFault path (.error (.parse ⟨path, reason, none⟩)) :=
    fun reason => .inr ⟨⟨path, reason, none⟩, rfl, rfl⟩
  obtain ⟨tree, htree, -⟩ := (fileOutline body).exists_tree? 1
  unfold modelOf
  dsimp only
  split
  · next hdeep => exact iff_of_true (hfault _) fun h => absurd h.1 (Nat.not_le.mpr hdeep)
  · next hfits =>
    have hfits := Nat.not_lt.mp hfits
    split
    · next hhuge => exact iff_of_false nofun fun h => h ⟨hfits, .inl hhuge⟩
    · next hhuge =>
      rw [htree]
      dsimp only
      -- what is left to fail is the collecting of elements, which fails as its requests do
      have hasks : AsksUnwritable (fileRequests body) ↔
          faultOf (elements body tree) = some .backslash := by
        rw [faultOf_elements htree, firstFault_eq_backslash_iff]
      split
      · next es hes =>
        rw [hes] at hasks
        exact iff_of_true (.inl ⟨_, rfl⟩) fun h => nomatch hasks.mp (h.2.resolve_left hhuge)
      · next hes =>
        rw [hes] at hasks
        exact iff_of_true (hfault _) fun h => nomatch hasks.mp (h.2.resolve_left hhuge)
      · next hes =>
        rw [hes] at hasks
        exact iff_of_false nofun fun h => h ⟨hfits, .inr (hasks.mpr rfl)⟩

/-- **Which files have no model.**  Whatever its bytes are, reading a file gives a model or a parse
fault of its path exactly if its statements, if it has any, need no text that cannot be written. -/
theorem model_or_parse_fault_iff (named? : List Char → Option Nat) (bytes : List UInt8)
    (path : String) : ModelOrParseFault path (Model.ofBytes named? bytes path) ↔
      ∀ body, statements? named? bytes = some body → ¬ Unwritable body := by
  cases hbody : statements? named? bytes with
  | none =>
    obtain ⟨reason, line, hfault⟩ := ofBytes_of_no_statements hbody path
    exact iff_of_true (.inr ⟨_, rfl, hfault⟩) nofun
  | some body =>
    rw [ofBytes_of_statements hbody path, modelOf_iff]
    exact ⟨fun h _ heq => Option.some.inj heq ▸ h, fun h => h body rfl⟩

/-- A file without formatted text and huge integers has a model or a parse fault. -/
theorem model_or_parse_fault_of_plain {named? : List Char → Option Nat} {bytes : List UInt8}
    {body : List Stmt} (hbody : statements? named? bytes = some body)
    (hembedding : (fileOutline body).any isEmbedding = false)
    (hhuge : (fileOutline body).any isHugeInteger = false) (path : String) :
    ModelOrParseFault path (Model.ofBytes named? bytes path) := by
  rw [ofBytes_of_statements hbody path, modelOf_iff]
  exact not_unwritable_of_plain hembedding hhuge

/-- The hint of a parameter embeds a text with a character that is only written with a backslash. -/
theorem unwritable_hint : ¬ ∀ bytes path,
    ModelOrParseFault path (Model.ofBytes (fun _ => none) bytes path) := by
  intro hclaim
  have hfault : faultOf (Model.ofBytes (fun _ => none)
      "def f(a: f\"\x7b'\x7f'\x7d\"): pass\n".toUTF8.toList "x.py") = some .backslash := by
    decide +kernel
  rcases hclaim "def f(a: f\"\x7b'\x7f'\x7d\"): pass\n".toUTF8.toList "x.py" with
    ⟨m, hm⟩ | ⟨fault, -, hparse⟩
  · rw [hm] at hfault
    cases hfault
  · rw [hparse] at hfault
    cases hfault

end Source

end Lineage
