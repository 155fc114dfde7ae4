import Docbase.Proofs.Script.LiteralSyntax

/-!
The slots that an expression needs do not depend on where it stands.
-/
namespace Docbase.Script

/-! What an expression is before any evaluation. -/

theorem truth?_onLine (line : ℕ) : ∀ e : Expr, (e.onLine line).truth? = e.truth?
  | .unary _ op a => by cases op <;> simp only [Expr.onLine, Expr.truth?, truth?_onLine line a]
  | .and a b | .or a b => by
    simp only [Expr.onLine, Expr.truth?, truth?_onLine line a, truth?_onLine line b]
  | .paren e => by simp only [Expr.onLine, Expr.truth?, truth?_onLine line e]
  | .nil | .boolean _ | .int _ | .double _ | .text _ | .varargs | .function .. | .name ..
  | .index .. | .call .. | .method .. | .binary .. | .table .. => rfl

theorem nameOnly?_onLine (line : ℕ) : ∀ e : Expr, (e.onLine line).nameOnly? = e.nameOnly?
  | .and a b | .or a b => by
    simp only [Expr.onLine, Expr.nameOnly?, truth?_onLine, nameOnly?_onLine line b]
  | .paren e => by simp only [Expr.onLine, Expr.nameOnly?, nameOnly?_onLine line e]
  | .nil | .boolean _ | .int _ | .double _ | .text _ | .varargs | .function .. | .name ..
  | .index .. | .call .. | .method .. | .unary .. | .binary .. | .table .. => rfl

theorem isShortText_onLine (line : ℕ) (e : Expr) :
    (e.onLine line).isShortText = e.isShortText := by
  cases e <;> rfl

namespace Slots

variable (line : ℕ) (v : Sight)

theorem ofValue_onLine (e : Expr) : ofValue v (e.onLine line) = ofValue v e := by
  rw [ofValue, ofValue, nameOnly?_onLine]

theorem ofOperand_onLine (e : Expr) : ofOperand v (e.onLine line) = ofOperand v e := by
  have hvalue := ofValue_onLine line v e
  cases e <;> first | rfl | exact hvalue

theorem ofStored_onLine (e : Expr) : ofStored v (e.onLine line) = ofStored v e := by
  have hvalue := ofValue_onLine line v e
  cases e <;> first | rfl | exact hvalue

theorem ofCondition_onLine (e : Expr) : ofCondition v (e.onLine line) = ofCondition v e := by
  have hvalue := ofValue_onLine line v e
  have htruth := truth?_onLine line e
  cases e with
  | binary l op a b => cases op <;> rfl
  | _ => simp only [Expr.onLine] at * <;> simp only [ofCondition, *]

theorem isOuter_onLine (e : Expr) : isOuter v (e.onLine line) = isOuter v e := by
  cases e <;> rfl

theorem ofObject_onLine (e : Expr) : ofObject v (e.onLine line) = ofObject v e := by
  rw [ofObject, ofObject, isOuter_onLine, ofValue_onLine]

theorem ofKey_onLine (object key : Expr) :
    ofKey v (object.onLine line) (key.onLine line) = ofKey v object key := by
  have hvalue := ofValue_onLine line v key
  have hshort := isShortText_onLine line key
  cases key <;> simp only [Expr.onLine] at * <;> simp only [ofKey, isOuter_onLine, *]

mutual

theorem expr_onLine : ∀ (e : Expr) (v : Sight) (used : ℕ),
    expr v used (e.onLine line) = expr v used e
  | .index _ object key, v, used => by
    simp only [Expr.onLine, expr, ofObject_onLine, ofKey_onLine, expr_onLine object,
      expr_onLine key]
  | .call _ f args, v, used => by
    simp only [Expr.onLine, expr, expr_onLine f, exprs_onLine args]
  | .method _ object _ args, v, used => by
    simp only [Expr.onLine, expr, expr_onLine object, exprs_onLine args]
  | .unary _ _ a, v, used => by simp only [Expr.onLine, expr, expr_onLine a, ofOperand_onLine]
  | .binary _ op a b, v, used => by
    cases op <;> simp only [Expr.onLine, expr, expr_onLine a, expr_onLine b, ofOperand_onLine]
  | .and a b, v, used | .or a b, v, used => by
    simp only [Expr.onLine, expr, expr_onLine a, expr_onLine b, ofCondition_onLine]
  | .table _ is, v, used => by simp only [Expr.onLine, expr, items_onLine is]
  | .paren e, v, used => by simp only [Expr.onLine, expr, expr_onLine e]
  | .nil, _, _ | .boolean _, _, _ | .int _, _, _ | .double _, _, _ | .text _, _, _
  | .varargs, _, _ | .function .., _, _ | .name .., _, _ => rfl

theorem exprs_onLine : ∀ (es : List Expr) (v : Sight) (used : ℕ),
    exprs v used (Expr.allOnLine line es) = exprs v used es
  | [], _, _ => rfl
  | e :: es, v, used => by simp only [Expr.allOnLine, exprs, expr_onLine e, exprs_onLine es]

theorem items_onLine : ∀ (is : List Item) (v : Sight) (used waiting : ℕ),
    items v used waiting (Item.allOnLine line is) = items v used waiting is
  | [], _, _, _ => rfl
  | .positional e :: is, v, used, waiting => by
    simp only [Item.allOnLine, Item.onLine, items, expr_onLine e, items_onLine is]
  | .keyed key e :: is, v, used, waiting => by
    have hkey : ofKey v .nil (key.onLine line) = ofKey v .nil key := ofKey_onLine line v .nil key
    simp only [Item.allOnLine, Item.onLine, items, expr_onLine key, expr_onLine e,
      items_onLine is, hkey, ofStored_onLine]

end

end Slots

end Docbase.Script
