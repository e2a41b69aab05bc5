import Lineage.Source.Outline
import Lineage.Source.Printer

/-!
# Expressions that have a text

The only obstacle to writing an expression is formatted text, whose embedded expressions must do
without a backslash: an expression with no embedded expression anywhere has a text, wherever it
stands.

## Main statements

- `written_text`: an expression without embedded expressions can be written at every level.
-/

namespace Lineage

namespace Outline

@[simp] theorem anyOf_append (p : String → String → Bool) (os os' : List Outline) :
    anyOf p (os ++ os') = (anyOf p os || anyOf p os') := by
  induction os with
  | nil => rfl
  | cons o os ih => rw [List.cons_append, anyOf, anyOf, ih, Bool.or_assoc]

end Outline

namespace Source

open Outline

/-- The node of an expression that is embedded in formatted text. -/
def isEmbedding (label _value : String) : Bool := label == "FormattedValue"

@[simp] theorem any_placed (p : String → String → Bool) (l : LineRange) (label value : String)
    (os : List Outline) : (placed l label value os).any p = (p label value || anyOf p os) := rfl

@[simp] theorem any_unplaced (p : String → String → Bool) (label : String) (os : List Outline) :
    (unplaced label os).any p = (p label "" || anyOf p os) := rfl

namespace Printer

/-! ### Computations that succeed -/

/-- A computation gives a result. -/
def Succeeds {β : Type} (x : Except Fault β) : Prop := ∃ b, x = .ok b

/-- An expression can be written at every level. -/
def Written (t : Text) : Prop := ∀ asked, Succeeds (t asked)

section Succeeds

variable {β γ : Type}

theorem succeeds_pure (b : β) : Succeeds (pure b : Except Fault β) := ⟨b, rfl⟩

theorem Succeeds.bind {x : Except Fault β} {f : β → Except Fault γ} (hx : Succeeds x)
    (hf : ∀ b, Succeeds (f b)) : Succeeds (x >>= f) := by
  obtain ⟨b, rfl⟩ := hx
  exact hf b

theorem Succeeds.map {x : Except Fault β} (hx : Succeeds x) (g : β → γ) :
    Succeeds (x >>= fun b => pure (g b)) := hx.bind fun b => succeeds_pure (g b)

theorem Succeeds.of_map {x : Except Fault β} {g : β → γ}
    (h : Succeeds (x >>= fun b => pure (g b))) : Succeeds x := by
  cases x with
  | error f =>
    obtain ⟨_, h⟩ := h
    cases h
  | ok b => exact ⟨b, rfl⟩

theorem succeeds_mapM {f : β → Except Fault γ} {xs : List β} (h : ∀ x ∈ xs, Succeeds (f x)) :
    Succeeds (xs.mapM f) := by
  induction xs with
  | nil => exact succeeds_pure []
  | cons x xs ih =>
    rw [List.mapM_cons]
    exact (h x List.mem_cons_self).bind fun _ =>
      (ih fun y hy => h y (List.mem_cons_of_mem _ hy)).map _

theorem succeeds_all {ts : List Text} (h : ∀ t ∈ ts, Written t) (level : Level) :
    Succeeds (all level ts) := succeeds_mapM fun t ht => h t ht level

theorem succeeds_rising {ts : List Text} (h : ∀ t ∈ ts, Written t) (level : Level) :
    Succeeds (rising level ts) := by
  induction ts generalizing level with
  | nil => exact succeeds_pure []
  | cons t ts ih =>
    rw [rising]
    exact (h t List.mem_cons_self level.next).bind fun _ =>
      (ih (fun u hu => h u (List.mem_cons_of_mem _ hu)) level.next).map _

theorem succeeds_compared (ops : List CompareOp) {ts : List Text} (h : ∀ t ∈ ts, Written t) :
    Succeeds (compared ops ts) := (succeeds_all h _).map _

theorem succeeds_entries {keys : List (Option Text)} {values : List Text}
    (hkeys : ∀ k ∈ keys, ∀ t ∈ k, Written t) (hvalues : ∀ t ∈ values, Written t) :
    Succeeds (entries keys values) := by
  refine succeeds_mapM fun p hp => ?_
  obtain ⟨hk, hv⟩ := List.of_mem_zip hp
  obtain ⟨_ | k, v⟩ := p
  · exact (hvalues v hv _).map _
  · exact (hkeys _ hk k rfl _).bind fun _ => (hvalues v hv _).map _

theorem succeeds_withDefault {param : Except Fault String} {value : Option Text}
    (hp : Succeeds param) (hv : ∀ t ∈ value, Written t) : Succeeds (withDefault param value) := by
  unfold withDefault
  cases value with
  | none => exact hp
  | some t => exact hp.bind fun _ => (hv t rfl _).map _

theorem succeeds_defaults {params : List (Except Fault String)} {values : List (Option Text)}
    (hparams : ∀ p ∈ params, Succeeds p) (hvalues : ∀ v ∈ values, ∀ t ∈ v, Written t) :
    Succeeds ((params.zip values).mapM fun (p, v) => withDefault p v) :=
  succeeds_mapM fun _ hp => succeeds_withDefault (hparams _ (List.of_mem_zip hp).1)
    (hvalues _ (List.of_mem_zip hp).2)

theorem succeeds_parameters {positionalOnly positional keywordOnly : List (Except Fault String)}
    {rest keywordRest : Option (Except Fault String)} {keywordDefaults : List (Option Text)}
    {defaults : List Text} (hpositionalOnly : ∀ p ∈ positionalOnly, Succeeds p)
    (hpositional : ∀ p ∈ positional, Succeeds p) (hrest : ∀ p ∈ rest, Succeeds p)
    (hkeywordOnly : ∀ p ∈ keywordOnly, Succeeds p)
    (hkeywordDefaults : ∀ v ∈ keywordDefaults, ∀ t ∈ v, Written t)
    (hkeywordRest : ∀ p ∈ keywordRest, Succeeds p) (hdefaults : ∀ t ∈ defaults, Written t) :
    Succeeds (parameters positionalOnly positional rest keywordOnly keywordDefaults keywordRest
      defaults) := by
  have hplain : ∀ p ∈ positionalOnly ++ positional, Succeeds p := fun p hp =>
    (List.mem_append.mp hp).elim (hpositionalOnly p) (hpositional p)
  have hvalues : ∀ v ∈ List.replicate ((positionalOnly ++ positional).length - defaults.length)
      none ++ defaults.map some, ∀ t ∈ v, Written t := by
    intro v hv t ht
    rcases List.mem_append.mp hv with hv | hv
    · rw [List.eq_of_mem_replicate hv] at ht
      cases ht
    · obtain ⟨u, hu, rfl⟩ := List.mem_map.mp hv
      cases ht
      exact hdefaults t hu
  unfold parameters
  refine (succeeds_defaults hplain hvalues).bind fun named => ?_
  have hkeyed := succeeds_defaults hkeywordOnly hkeywordDefaults
  cases rest
  case' none => refine (succeeds_pure _).bind fun star => hkeyed.bind fun keyed => ?_
  case' some r =>
    refine (hrest r rfl).bind fun _ => (succeeds_pure _).bind fun star =>
      hkeyed.bind fun keyed => ?_
  all_goals
    cases keywordRest with
    | none => exact (succeeds_pure _).map _
    | some r => exact (hkeywordRest r rfl).bind fun _ => (succeeds_pure _).map _

end Succeeds

/-- An index that is a tuple is written without parentheses. -/
theorem written_subscript {inside : Bool} {l : LineRange} {value index : Expr}
    (hvalue : Written (text inside value)) (hindex : Written (text inside index)) :
    Written (text inside (.subscript l value index)) := by
  intro asked
  cases index with
  | tuple _ elements =>
    have htuple := hindex asked
    rw [text] at htuple
    cases elements with
    | nil =>
      rw [text]
      · exact (hvalue _).bind fun _ => (hindex _).map _
      · nofun
    | cons e es =>
      rw [text]
      exact (hvalue _).bind fun _ => htuple.of_map.map _
  | _ =>
    rw [text]
    · exact (hvalue _).bind fun _ => (hindex _).map _
    · nofun

mutual

theorem written_text (inside : Bool) : ∀ e : Expr, e.outline.any isEmbedding = false →
    Written (text inside e)
  | .boolOp _ o values, h, asked => by
    simp only [Expr.outline, any_placed, anyOf, Bool.or_eq_false_iff] at h
    rw [text]
    exact (succeeds_rising (written_texts inside values h.2.2) _).map _
  | .named _ target value, h, asked => by
    simp only [Expr.outline, any_placed, anyOf, Bool.or_eq_false_iff] at h
    rw [text]
    exact (written_text inside target h.2.1 _).bind fun _ =>
      (written_text inside value h.2.2.1 _).map _
  | .binary _ left o right, h, asked => by
    simp only [Expr.outline, any_placed, anyOf, Bool.or_eq_false_iff] at h
    rw [text]
    exact (written_text inside left h.2.1 _).bind fun _ =>
      (written_text inside right h.2.2.2.1 _).map _
  | .unary _ o operand, h, asked => by
    simp only [Expr.outline, any_placed, anyOf, Bool.or_eq_false_iff] at h
    rw [text]
    exact (written_text inside operand h.2.2.1 _).map _
  | .lambda _ params body, h, asked => by
    simp only [Expr.outline, any_placed, anyOf, Bool.or_eq_false_iff] at h
    rw [text]
    exact (succeeds_paramsText inside params h.2.1).bind fun _ =>
      (written_text inside body h.2.2.1 _).map _
  | .ifExp _ test body orElse, h, asked => by
    simp only [Expr.outline, any_placed, anyOf, Bool.or_eq_false_iff] at h
    rw [text]
    exact (written_text inside body h.2.2.1 _).bind fun _ =>
      (written_text inside test h.2.1 _).bind fun _ =>
        (written_text inside orElse h.2.2.2.1 _).map _
  | .dict _ keys values, h, asked => by
    simp only [Expr.outline, any_placed, anyOf_append, Bool.or_eq_false_iff] at h
    rw [text]
    exact (succeeds_entries (written_optionalTexts inside keys h.2.1)
      (written_texts inside values h.2.2)).map _
  | .set _ elements, h, asked => by
    simp only [Expr.outline, any_placed, Bool.or_eq_false_iff] at h
    rw [text]
    exact (succeeds_all (written_texts inside elements h.2) _).map _
  | .listComp _ element generators, h, asked => by
    simp only [Expr.outline, any_placed, anyOf, Bool.or_eq_false_iff] at h
    rw [text]
    exact (written_text inside element h.2.1 _).bind fun _ =>
      (succeeds_clauses inside generators h.2.2).map _
  | .setComp _ element generators, h, asked => by
    simp only [Expr.outline, any_placed, anyOf, Bool.or_eq_false_iff] at h
    rw [text]
    exact (written_text inside element h.2.1 _).bind fun _ =>
      (succeeds_clauses inside generators h.2.2).map _
  | .dictComp _ key value generators, h, asked => by
    simp only [Expr.outline, any_placed, anyOf, Bool.or_eq_false_iff] at h
    rw [text]
    exact (written_text inside key h.2.1 _).bind fun _ =>
      (written_text inside value h.2.2.1 _).bind fun _ =>
        (succeeds_clauses inside generators h.2.2.2).map _
  | .generator _ element generators, h, asked => by
    simp only [Expr.outline, any_placed, anyOf, Bool.or_eq_false_iff] at h
    rw [text]
    exact (written_text inside element h.2.1 _).bind fun _ =>
      (succeeds_clauses inside generators h.2.2).map _
  | .await _ value, h, asked => by
    simp only [Expr.outline, any_placed, anyOf, Bool.or_eq_false_iff] at h
    rw [text]
    exact (written_text inside value h.2.1 _).map _
  | .yield _ none, _, asked => by
    rw [text]
    exact succeeds_pure _
  | .yield _ (some value), h, asked => by
    simp only [Expr.outline, optionalOutline, any_placed, anyOf, Bool.or_eq_false_iff] at h
    rw [text]
    exact (written_text inside value h.2.1 _).map _
  | .yieldFrom _ value, h, asked => by
    simp only [Expr.outline, any_placed, anyOf, Bool.or_eq_false_iff] at h
    rw [text]
    exact (written_text inside value h.2.1 _).map _
  | .compare _ left ops comparators, h, asked => by
    simp only [Expr.outline, any_placed, anyOf, anyOf_append, Bool.or_eq_false_iff] at h
    rw [text]
    exact (written_text inside left h.2.1 _).bind fun _ =>
      (succeeds_compared ops (written_texts inside comparators h.2.2.2)).map _
  | .call _ func args keywords, h, asked => by
    simp only [Expr.outline, any_placed, anyOf, anyOf_append, Bool.or_eq_false_iff] at h
    rw [text]
    exact (succeeds_all (written_texts inside args h.2.2.1) _).bind fun _ =>
      (succeeds_keywordTexts inside keywords h.2.2.2).bind fun _ =>
        (written_text inside func h.2.1 _).map _
  | .formatted _ _ _ _, h, _ => by
    simp [Expr.outline, isEmbedding] at h
  | .joined _ values, h, asked => by
    simp only [Expr.outline, any_placed, Bool.or_eq_false_iff] at h
    rw [text]
    exact (succeeds_pieces values h.2).map _
  | .constant _ _ _, _, asked => by
    rw [text]
    exact succeeds_pure _
  | .attr _ value name, h, asked => by
    simp only [Expr.outline, any_placed, anyOf, Bool.or_eq_false_iff] at h
    rw [text]
    exact (written_text inside value h.2.1 _).map _
  | .subscript _ value index, h, asked => by
    simp only [Expr.outline, any_placed, anyOf, Bool.or_eq_false_iff] at h
    exact written_subscript (written_text inside value h.2.1) (written_text inside index h.2.2.1)
      asked
  | .starred _ value, h, asked => by
    simp only [Expr.outline, any_placed, anyOf, Bool.or_eq_false_iff] at h
    rw [text]
    exact (written_text inside value h.2.1 _).map _
  | .name _ _, _, asked => by
    rw [text]
    exact succeeds_pure _
  | .list _ elements, h, asked => by
    simp only [Expr.outline, any_placed, Bool.or_eq_false_iff] at h
    rw [text]
    exact (succeeds_all (written_texts inside elements h.2) _).map _
  | .tuple _ elements, h, asked => by
    simp only [Expr.outline, any_placed, Bool.or_eq_false_iff] at h
    rw [text]
    exact (succeeds_all (written_texts inside elements h.2) _).map _
  | .slice _ lower upper step, h, asked => by
    simp only [Expr.outline, any_placed, anyOf_append, Bool.or_eq_false_iff] at h
    obtain ⟨-, ⟨hlower, hupper⟩, hstep⟩ := h
    rw [text]
    dsimp only
    have hbound : ∀ limit : Option Text, (∀ t ∈ limit, Written t) → Succeeds (match limit with
        | some t => t .test
        | none => pure "") := by
      rintro (_ | t) ht
      · exact succeeds_pure ""
      · exact ht t rfl _
    refine (hbound _ (written_optionalText inside lower hlower)).bind fun _ =>
      (hbound _ (written_optionalText inside upper hupper)).bind fun _ => ?_
    have hstep := written_optionalText inside step hstep
    cases htext : optionalText inside step with
    | none => exact (succeeds_pure _).map _
    | some t => exact (hstep t htext _).bind fun _ => (succeeds_pure _).map _

theorem written_optionalText (inside : Bool) : ∀ e : Option Expr,
    anyOf isEmbedding (optionalOutline e) = false → ∀ t ∈ optionalText inside e, Written t
  | none, _, _, ht => nomatch ht
  | some e, h, t, ht => by
    rw [optionalOutline, anyOf, Bool.or_eq_false_iff] at h
    cases ht
    exact written_text inside e h.1

theorem written_texts (inside : Bool) : ∀ es : List Expr, anyOf isEmbedding (outlines es) = false →
    ∀ t ∈ texts inside es, Written t
  | [], _, _, ht => nomatch ht
  | e :: es, h, t, ht => by
    rw [outlines, anyOf, Bool.or_eq_false_iff] at h
    rcases List.mem_cons.mp ht with rfl | ht
    · exact written_text inside e h.1
    · exact written_texts inside es h.2 t ht

theorem written_optionalTexts (inside : Bool) : ∀ es : List (Option Expr),
    anyOf isEmbedding (presentOutlines es) = false →
    ∀ k ∈ optionalTexts inside es, ∀ t ∈ k, Written t
  | [], _, _, hk => nomatch hk
  | e :: es, h, k, hk => by
    rw [presentOutlines, anyOf_append, Bool.or_eq_false_iff] at h
    rcases List.mem_cons.mp hk with rfl | hk
    · exact written_optionalText inside e h.1
    · exact written_optionalTexts inside es h.2 k hk

theorem succeeds_clauses (inside : Bool) : ∀ cs : List Comprehension,
    anyOf isEmbedding (clauseOutlines cs) = false → Succeeds (clauses inside cs)
  | [], _ => succeeds_pure ""
  | .mk target source conditions isAsync :: rest, h => by
    simp only [clauseOutlines, anyOf, any_unplaced, Bool.or_eq_false_iff] at h
    obtain ⟨⟨-, htarget, hsource, hconditions⟩, hrest⟩ := h
    rw [clauses]
    exact (succeeds_all (written_texts inside conditions hconditions) _).bind fun _ =>
      (written_text inside target htarget _).bind fun _ =>
        (written_text inside source hsource _).bind fun _ =>
          (succeeds_clauses inside rest hrest).map _

theorem succeeds_keywordTexts (inside : Bool) : ∀ ks : List Keyword,
    anyOf isEmbedding (keywordOutlines ks) = false → Succeeds (keywordTexts inside ks)
  | [], _ => succeeds_pure []
  | .mk _ name value :: rest, h => by
    simp only [keywordOutlines, anyOf, any_placed, Bool.or_eq_false_iff] at h
    unfold keywordTexts
    exact (written_text inside value h.1.2.1 _).bind fun _ =>
      (succeeds_keywordTexts inside rest h.2).map _

theorem succeeds_paramText (inside : Bool) : ∀ p : Param, p.outline.any isEmbedding = false →
    Succeeds (paramText inside p)
  | .mk _ name none, _ => succeeds_pure name
  | .mk _ name (some hint), h => by
    simp only [Param.outline, optionalOutline, any_placed, anyOf, Bool.or_eq_false_iff] at h
    rw [paramText]
    exact (written_text inside hint h.2.1 _).map _

theorem succeeds_paramTexts (inside : Bool) : ∀ ps : List Param,
    anyOf isEmbedding (paramOutlines ps) = false → ∀ p ∈ paramTexts inside ps, Succeeds p
  | [], _, _, hp => nomatch hp
  | p :: ps, h, q, hq => by
    rw [paramOutlines, anyOf, Bool.or_eq_false_iff] at h
    rcases List.mem_cons.mp hq with rfl | hq
    · exact succeeds_paramText inside p h.1
    · exact succeeds_paramTexts inside ps h.2 q hq

theorem succeeds_optionalParam (inside : Bool) : ∀ p : Option Param,
    anyOf isEmbedding (optionalParamOutline p) = false →
    ∀ q ∈ optionalParam inside p, Succeeds q
  | none, _, _, hq => nomatch hq
  | some p, h, q, hq => by
    rw [optionalParamOutline, anyOf, Bool.or_eq_false_iff] at h
    cases hq
    exact succeeds_paramText inside p h.1

theorem succeeds_paramsText (inside : Bool) : ∀ ps : Params, ps.outline.any isEmbedding = false →
    Succeeds (paramsText inside ps)
  | .mk positionalOnly positional rest keywordOnly keywordDefaults keywordRest defaults, h => by
    simp only [Params.outline, any_unplaced, anyOf_append, Bool.or_eq_false_iff] at h
    obtain ⟨-, ⟨⟨⟨⟨⟨hpositionalOnly, hpositional⟩, hrest⟩, hkeywordOnly⟩, hkeywordDefaults⟩,
      hkeywordRest⟩, hdefaults⟩ := h
    rw [paramsText]
    exact succeeds_parameters (succeeds_paramTexts inside positionalOnly hpositionalOnly)
      (succeeds_paramTexts inside positional hpositional)
      (succeeds_optionalParam inside rest hrest)
      (succeeds_paramTexts inside keywordOnly hkeywordOnly)
      (written_optionalTexts inside keywordDefaults hkeywordDefaults)
      (succeeds_optionalParam inside keywordRest hkeywordRest)
      (written_texts inside defaults hdefaults)

theorem succeeds_piece : ∀ e : Expr, e.outline.any isEmbedding = false → Succeeds (piece e)
  | .joined _ values, h => by
    simp only [Expr.outline, any_placed, Bool.or_eq_false_iff] at h
    rw [piece]
    exact (succeeds_pieces values h.2).map _
  | .formatted _ _ _ _, h => by
    simp [Expr.outline, isEmbedding] at h
  | .constant _ value _, _ => by
    cases value <;> exact succeeds_pure _
  | .boolOp .., _ | .named .., _ | .binary .., _ | .unary .., _ | .lambda .., _ | .ifExp .., _
  | .dict .., _ | .set .., _ | .listComp .., _ | .setComp .., _ | .dictComp .., _
  | .generator .., _ | .await .., _ | .yield .., _ | .yieldFrom .., _ | .compare .., _
  | .call .., _ | .attr .., _ | .subscript .., _ | .starred .., _ | .name .., _ | .list .., _
  | .tuple .., _ | .slice .., _ => succeeds_pure []

theorem succeeds_pieces : ∀ es : List Expr, anyOf isEmbedding (outlines es) = false →
    Succeeds (pieces es)
  | [], _ => succeeds_pure []
  | e :: es, h => by
    rw [outlines, anyOf, Bool.or_eq_false_iff] at h
    unfold pieces
    exact (succeeds_piece e h.1).bind fun _ => (succeeds_pieces es h.2).map _

end

end Printer

end Source

end Lineage
