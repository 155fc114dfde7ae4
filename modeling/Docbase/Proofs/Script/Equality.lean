import Docbase.Script.Scope

/-!
Equality of syntax can be decided, and with it equality of what holds syntax: of functions, of
heaps and of scopes.
-/
namespace Docbase.Script

mutual

/-- Whether two expressions are the same. -/
def Expr.same : Expr → Expr → Bool
  | .nil, .nil => true
  | .boolean b, .boolean c => b == c
  | .int m, .int n => m == n
  | .double x, .double y => x == y
  | .text s, .text t => s == t
  | .varargs, .varargs => true
  | .function ps v ss, .function qs w ts => ps == qs && v == w && Block.same ss ts
  | .name l x, .name m y => l == m && x == y
  | .index l a b, .index m c d => l == m && a.same c && b.same d
  | .call l f as, .call m g bs => l == m && f.same g && Expr.sameAll as bs
  | .method l a x as, .method m b y bs => l == m && a.same b && x == y && Expr.sameAll as bs
  | .unary l op a, .unary m op' b => l == m && op == op' && a.same b
  | .binary l op a b, .binary m op' c d => l == m && op == op' && a.same c && b.same d
  | .and a b, .and c d => a.same c && b.same d
  | .or a b, .or c d => a.same c && b.same d
  | .table l is, .table m js => l == m && Item.sameAll is js
  | .paren a, .paren b => a.same b
  | _, _ => false
termination_by structural a => a

def Expr.sameAll : List Expr → List Expr → Bool
  | [], [] => true
  | a :: as, b :: bs => a.same b && Expr.sameAll as bs
  | _, _ => false
termination_by structural a => a

def Expr.sameOption : Option Expr → Option Expr → Bool
  | none, none => true
  | some a, some b => a.same b
  | _, _ => false
termination_by structural a => a

def Item.sameAll : List Item → List Item → Bool
  | [], [] => true
  | .positional e :: is, .positional f :: js => e.same f && Item.sameAll is js
  | .keyed k e :: is, .keyed l f :: js => k.same l && e.same f && Item.sameAll is js
  | _, _ => false
termination_by structural a => a

def Target.sameAll : List Target → List Target → Bool
  | [], [] => true
  | .name x :: ts, .name y :: us => x == y && Target.sameAll ts us
  | .index a k :: ts, .index b l :: us => a.same b && k.same l && Target.sameAll ts us
  | _, _ => false
termination_by structural a => a

def Stmt.same : Stmt → Stmt → Bool
  | .declare xs as, .declare ys bs => xs == ys && Expr.sameAll as bs
  | .assign l ts as, .assign m us bs => l == m && Target.sameAll ts us && Expr.sameAll as bs
  | .call a, .call b => a.same b
  | .block ss, .block ts => Block.same ss ts
  | .whileLoop a ss, .whileLoop b ts => a.same b && Block.same ss ts
  | .repeatLoop ss a, .repeatLoop ts b => Block.same ss ts && a.same b
  | .branch a ss ts, .branch b us vs => a.same b && Block.same ss us && Block.same ts vs
  | .numericFor l x a b c ss, .numericFor m y d e f ts =>
    l == m && x == y && a.same d && b.same e && Expr.sameOption c f && Block.same ss ts
  | .genericFor l xs as ss, .genericFor m ys bs ts =>
    l == m && xs == ys && Expr.sameAll as bs && Block.same ss ts
  | .localFunction x ps v ss, .localFunction y qs w ts =>
    x == y && ps == qs && v == w && Block.same ss ts
  | .giveBack as, .giveBack bs => Expr.sameAll as bs
  | .leave, .leave => true
  | .jump x, .jump y => x == y
  | .label x, .label y => x == y
  | _, _ => false
termination_by structural a => a

def Block.same : List Stmt → List Stmt → Bool
  | [], [] => true
  | s :: ss, t :: ts => s.same t && Block.same ss ts
  | _, _ => false
termination_by structural a => a

end

mutual

theorem Expr.eq_of_same : ∀ a b : Expr, a.same b = true → a = b
  | .nil, .nil, _ | .varargs, .varargs, _ => rfl
  | .boolean b, .boolean c, h | .int b, .int c, h | .double b, .double c, h
  | .text b, .text c, h => by
    rw [Expr.same, beq_iff_eq] at h
    rw [h]
  | .function ps v ss, .function qs w ts, h => by
    simp only [Expr.same, Bool.and_eq_true, beq_iff_eq] at h
    rw [h.1.1, h.1.2, Block.eq_of_same ss ts h.2]
  | .name l x, .name m y, h => by
    simp only [Expr.same, Bool.and_eq_true, beq_iff_eq] at h
    rw [h.1, h.2]
  | .index l a b, .index m c d, h => by
    simp only [Expr.same, Bool.and_eq_true, beq_iff_eq] at h
    rw [h.1.1, Expr.eq_of_same a c h.1.2, Expr.eq_of_same b d h.2]
  | .call l f as, .call m g bs, h => by
    simp only [Expr.same, Bool.and_eq_true, beq_iff_eq] at h
    rw [h.1.1, Expr.eq_of_same f g h.1.2, Expr.eq_of_sameAll as bs h.2]
  | .method l a x as, .method m b y bs, h => by
    simp only [Expr.same, Bool.and_eq_true, beq_iff_eq] at h
    rw [h.1.1.1, Expr.eq_of_same a b h.1.1.2, h.1.2, Expr.eq_of_sameAll as bs h.2]
  | .unary l op a, .unary m op' b, h => by
    simp only [Expr.same, Bool.and_eq_true, beq_iff_eq] at h
    rw [h.1.1, h.1.2, Expr.eq_of_same a b h.2]
  | .binary l op a b, .binary m op' c d, h => by
    simp only [Expr.same, Bool.and_eq_true, beq_iff_eq] at h
    rw [h.1.1.1, h.1.1.2, Expr.eq_of_same a c h.1.2, Expr.eq_of_same b d h.2]
  | .and a b, .and c d, h | .or a b, .or c d, h => by
    simp only [Expr.same, Bool.and_eq_true] at h
    rw [Expr.eq_of_same a c h.1, Expr.eq_of_same b d h.2]
  | .table l is, .table m js, h => by
    simp only [Expr.same, Bool.and_eq_true, beq_iff_eq] at h
    rw [h.1, Item.eq_of_sameAll is js h.2]
  | .paren a, .paren b, h => by
    rw [Expr.same] at h
    rw [Expr.eq_of_same a b h]

theorem Expr.eq_of_sameAll : ∀ as bs : List Expr, Expr.sameAll as bs = true → as = bs
  | [], [], _ => rfl
  | a :: as, b :: bs, h => by
    simp only [Expr.sameAll, Bool.and_eq_true] at h
    rw [Expr.eq_of_same a b h.1, Expr.eq_of_sameAll as bs h.2]

theorem Expr.eq_of_sameOption : ∀ a b : Option Expr, Expr.sameOption a b = true → a = b
  | none, none, _ => rfl
  | some a, some b, h => by
    rw [Expr.sameOption] at h
    rw [Expr.eq_of_same a b h]

theorem Item.eq_of_sameAll : ∀ is js : List Item, Item.sameAll is js = true → is = js
  | [], [], _ => rfl
  | .positional e :: is, .positional f :: js, h => by
    simp only [Item.sameAll, Bool.and_eq_true] at h
    rw [Expr.eq_of_same e f h.1, Item.eq_of_sameAll is js h.2]
  | .keyed k e :: is, .keyed l f :: js, h => by
    simp only [Item.sameAll, Bool.and_eq_true] at h
    rw [Expr.eq_of_same k l h.1.1, Expr.eq_of_same e f h.1.2, Item.eq_of_sameAll is js h.2]

theorem Target.eq_of_sameAll : ∀ ts us : List Target, Target.sameAll ts us = true → ts = us
  | [], [], _ => rfl
  | .name x :: ts, .name y :: us, h => by
    simp only [Target.sameAll, Bool.and_eq_true, beq_iff_eq] at h
    rw [h.1, Target.eq_of_sameAll ts us h.2]
  | .index a k :: ts, .index b l :: us, h => by
    simp only [Target.sameAll, Bool.and_eq_true] at h
    rw [Expr.eq_of_same a b h.1.1, Expr.eq_of_same k l h.1.2, Target.eq_of_sameAll ts us h.2]

theorem Stmt.eq_of_same : ∀ s t : Stmt, s.same t = true → s = t
  | .declare xs as, .declare ys bs, h => by
    simp only [Stmt.same, Bool.and_eq_true, beq_iff_eq] at h
    rw [h.1, Expr.eq_of_sameAll as bs h.2]
  | .assign l ts as, .assign m us bs, h => by
    simp only [Stmt.same, Bool.and_eq_true, beq_iff_eq] at h
    rw [h.1.1, Target.eq_of_sameAll ts us h.1.2, Expr.eq_of_sameAll as bs h.2]
  | .call a, .call b, h => by
    rw [Stmt.same] at h
    rw [Expr.eq_of_same a b h]
  | .block ss, .block ts, h => by
    rw [Stmt.same] at h
    rw [Block.eq_of_same ss ts h]
  | .whileLoop a ss, .whileLoop b ts, h => by
    simp only [Stmt.same, Bool.and_eq_true] at h
    rw [Expr.eq_of_same a b h.1, Block.eq_of_same ss ts h.2]
  | .repeatLoop ss a, .repeatLoop ts b, h => by
    simp only [Stmt.same, Bool.and_eq_true] at h
    rw [Block.eq_of_same ss ts h.1, Expr.eq_of_same a b h.2]
  | .branch a ss ts, .branch b us vs, h => by
    simp only [Stmt.same, Bool.and_eq_true] at h
    rw [Expr.eq_of_same a b h.1.1, Block.eq_of_same ss us h.1.2, Block.eq_of_same ts vs h.2]
  | .numericFor l x a b c ss, .numericFor m y d e f ts, h => by
    simp only [Stmt.same, Bool.and_eq_true, beq_iff_eq] at h
    obtain ⟨⟨⟨⟨⟨hl, hx⟩, ha⟩, hb⟩, hc⟩, hss⟩ := h
    rw [hl, hx, Expr.eq_of_same a d ha, Expr.eq_of_same b e hb, Expr.eq_of_sameOption c f hc,
      Block.eq_of_same ss ts hss]
  | .genericFor l xs as ss, .genericFor m ys bs ts, h => by
    simp only [Stmt.same, Bool.and_eq_true, beq_iff_eq] at h
    rw [h.1.1.1, h.1.1.2, Expr.eq_of_sameAll as bs h.1.2, Block.eq_of_same ss ts h.2]
  | .localFunction x ps v ss, .localFunction y qs w ts, h => by
    simp only [Stmt.same, Bool.and_eq_true, beq_iff_eq] at h
    rw [h.1.1.1, h.1.1.2, h.1.2, Block.eq_of_same ss ts h.2]
  | .giveBack as, .giveBack bs, h => by
    rw [Stmt.same] at h
    rw [Expr.eq_of_sameAll as bs h]
  | .leave, .leave, _ => rfl
  | .jump x, .jump y, h | .label x, .label y, h => by
    rw [Stmt.same, beq_iff_eq] at h
    rw [h]

theorem Block.eq_of_same : ∀ ss ts : List Stmt, Block.same ss ts = true → ss = ts
  | [], [], _ => rfl
  | s :: ss, t :: ts, h => by
    simp only [Block.same, Bool.and_eq_true] at h
    rw [Stmt.eq_of_same s t h.1, Block.eq_of_same ss ts h.2]

end

mutual

theorem Expr.same_self : ∀ a : Expr, a.same a = true
  | .nil | .varargs => rfl
  | .boolean _ | .int _ | .double _ | .text _ => beq_self_eq_true _
  | .function _ _ ss => by simp [Expr.same, Block.same_self ss]
  | .name .. => by simp [Expr.same]
  | .index _ a b | .and a b | .or a b => by simp [Expr.same, Expr.same_self a, Expr.same_self b]
  | .call _ f as => by simp [Expr.same, Expr.same_self f, Expr.sameAll_self as]
  | .method _ a _ as => by simp [Expr.same, Expr.same_self a, Expr.sameAll_self as]
  | .unary _ _ a => by simp [Expr.same, Expr.same_self a]
  | .binary _ _ a b => by simp [Expr.same, Expr.same_self a, Expr.same_self b]
  | .table _ is => by simp [Expr.same, Item.sameAll_self is]
  | .paren a => Expr.same_self a

theorem Expr.sameAll_self : ∀ as : List Expr, Expr.sameAll as as = true
  | [] => rfl
  | a :: as => by rw [Expr.sameAll, Expr.same_self a, Expr.sameAll_self as]; rfl

theorem Expr.sameOption_self : ∀ a : Option Expr, Expr.sameOption a a = true
  | none => rfl
  | some a => Expr.same_self a

theorem Item.sameAll_self : ∀ is : List Item, Item.sameAll is is = true
  | [] => rfl
  | .positional e :: is => by simp [Item.sameAll, Expr.same_self e, Item.sameAll_self is]
  | .keyed k e :: is => by
    simp [Item.sameAll, Expr.same_self k, Expr.same_self e, Item.sameAll_self is]

theorem Target.sameAll_self : ∀ ts : List Target, Target.sameAll ts ts = true
  | [] => rfl
  | .name _ :: ts => by simp [Target.sameAll, Target.sameAll_self ts]
  | .index a k :: ts => by
    simp [Target.sameAll, Expr.same_self a, Expr.same_self k, Target.sameAll_self ts]

theorem Stmt.same_self : ∀ s : Stmt, s.same s = true
  | .declare _ as => by simp [Stmt.same, Expr.sameAll_self as]
  | .assign _ ts as => by simp [Stmt.same, Target.sameAll_self ts, Expr.sameAll_self as]
  | .call a => Expr.same_self a
  | .block ss => Block.same_self ss
  | .whileLoop a ss | .repeatLoop ss a => by simp [Stmt.same, Expr.same_self a, Block.same_self ss]
  | .branch a ss ts => by
    simp [Stmt.same, Expr.same_self a, Block.same_self ss, Block.same_self ts]
  | .numericFor _ _ a b c ss => by
    simp [Stmt.same, Expr.same_self a, Expr.same_self b, Expr.sameOption_self c,
      Block.same_self ss]
  | .genericFor _ _ as ss => by simp [Stmt.same, Expr.sameAll_self as, Block.same_self ss]
  | .localFunction _ _ _ ss => by simp [Stmt.same, Block.same_self ss]
  | .giveBack as => Expr.sameAll_self as
  | .leave => rfl
  | .jump _ | .label _ => beq_self_eq_true _

theorem Block.same_self : ∀ ss : List Stmt, Block.same ss ss = true
  | [] => rfl
  | s :: ss => by rw [Block.same, Stmt.same_self s, Block.same_self ss]; rfl

end

instance : DecidableEq Stmt := fun s t =>
  decidable_of_iff (s.same t = true) ⟨Stmt.eq_of_same s t, fun h => h ▸ s.same_self⟩

deriving instance DecidableEq for Closure, Table, Heap

end Docbase.Script

namespace Docbase

deriving instance DecidableEq for Scope

end Docbase
