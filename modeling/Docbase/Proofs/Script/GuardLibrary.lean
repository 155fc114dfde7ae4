import Docbase.Proofs.Script.Guard
import Docbase.Script.Library

/-!
What the library does for itself, and the operators, only concerns tables: guarded variables are
as safe with them as with the functions that they call.
-/
namespace Docbase.Script

variable {G : Guard} {n : ℕ} {call call' : Callee}

theorem Guard.Alike.goes (hcall : G.Alike call call') (f : Datum) (args : List Datum) :
    G.Same n (call f args) (call' f args) :=
  (hcall f args).mono (Nat.zero_le n)

/-! Operators. -/

namespace Operation

open Guard

theorem goes_metatable? (d : Datum) : G.Same n (metatable? d) (metatable? d) := by
  unfold metatable?
  split
  · exact .bind (.readTable _) fun _ => .pure _
  · exact .pure _
  · exact .pure _

theorem goes_metamethod (d : Datum) (event : String) :
    G.Same n (metamethod d event) (metamethod d event) := by
  refine .bind (goes_metatable? d) fun place => ?_
  cases place with
  | none => exact .pure _
  | some place => exact .rawGet _ _

theorem goes_binaryHandler (event : String) (a b : Datum) :
    G.Same n (binaryHandler event a b) (binaryHandler event a b) := by
  refine .bind (goes_metamethod a event) fun handler => ?_
  split
  · exact goes_metamethod b event
  · exact .pure _

variable (hcall : G.Alike call call')
include hcall

/-- The first result of a call. -/
theorem goes_first (f : Datum) (args : List Datum) :
    G.Same n (do return first (← call f args)) (do return first (← call' f args)) :=
  .bind (hcall.goes f args) fun _ => .pure _

theorem goes_indexFrom (key : Datum) (fuel : ℕ) (object : Datum) :
    G.Same n (indexFrom call key fuel object) (indexFrom call' key fuel object) := by
  induction fuel generalizing object with
  | zero => exact .fail _
  | succ fuel ih =>
    unfold indexFrom
    dsimp only
    split
    on_goal 1 => refine .bind (.rawGet _ _) fun found => ?_
    on_goal 2 => refine .bind (.pure _) fun found => ?_
    all_goals
      split
      · exact .pure _
      refine .bind (goes_metamethod _ "__index") fun handler => ?_
      split <;> first | exact .pure _ | exact .fail _ | skip
      split
      · exact goes_first hcall _ _
      · exact ih _

theorem goes_index (object key : Datum) :
    G.Same n (index call object key) (index call' object key) :=
  goes_indexFrom hcall key chainLimit object

theorem goes_setIndexFrom (key value : Datum) (fuel : ℕ) (object : Datum) :
    G.Same n (setIndexFrom call key value fuel object)
      (setIndexFrom call' key value fuel object) := by
  induction fuel generalizing object with
  | zero => exact .fail _
  | succ fuel ih =>
    have hhand (handler : Datum) (args : List Datum) : G.Same n
        (if handler.isFunction then do let _ ← call handler args
          else setIndexFrom call key value fuel handler)
        (if handler.isFunction then do let _ ← call' handler args
          else setIndexFrom call' key value fuel handler) := by
      split
      · exact .bind (hcall.goes _ _) fun _ => .pure _
      · exact ih handler
    refine .bind (goes_metamethod object "__newindex") fun handler => ?_
    split
    · split
      · exact .rawSet _ _ _
      refine .bind (.rawGet _ _) fun found => ?_
      split
      · exact .rawSet _ _ _
      · exact hhand _ _
    · split
      · exact .fail _
      · exact hhand _ _

theorem goes_setIndex (object key value : Datum) :
    G.Same n (setIndex call object key value) (setIndex call' object key value) :=
  goes_setIndexFrom hcall key value chainLimit object

theorem goes_arithmetic (op : BinaryOp) (a b : Datum) :
    G.Same n (arithmetic call op a b) (arithmetic call' op a b) := by
  have hhandler (message : String) : G.Same n
      (do
        let handler ← binaryHandler (eventName op) a b
        if handler.isNil then Run.fail message else return first (← call handler [a, b]))
      (do
        let handler ← binaryHandler (eventName op) a b
        if handler.isNil then Run.fail message else return first (← call' handler [a, b])) := by
    refine .bind (goes_binaryHandler _ a b) fun handler => ?_
    split
    · exact .fail _
    · exact goes_first hcall _ _
  unfold arithmetic
  dsimp only
  split
  · split
    · exact .pure _
    · exact hhandler _
  · split <;> exact hhandler _

theorem goes_concat (a b : Datum) : G.Same n (concat call a b) (concat call' a b) := by
  unfold concat
  split
  · exact .pure _
  refine .bind (goes_binaryHandler _ a b) fun handler => ?_
  split
  · exact .fail _
  · exact goes_first hcall _ _

theorem goes_equals (a b : Datum) : G.Same n (equals call a b) (equals call' a b) := by
  unfold equals
  split
  · exact .pure _
  split
  · refine .bind (goes_binaryHandler _ _ _) fun handler => ?_
    split
    · exact .pure _
    · exact .bind (hcall.goes _ _) fun _ => .pure _
  · exact .pure _

theorem goes_compared? (event : String) (a b : Datum) :
    G.Same n (compared? call event a b) (compared? call' event a b) := by
  refine .bind (goes_binaryHandler event a b) fun handler => ?_
  split
  · exact .pure _
  · exact .bind (hcall.goes _ _) fun _ => .pure _

omit hcall in
theorem goes_failCompare (a b : Datum) : G.Same n (failCompare a b) (failCompare a b) := by
  unfold failCompare
  split <;> exact .fail _

theorem goes_less (a b : Datum) : G.Same n (less call a b) (less call' a b) := by
  unfold less
  split
  · exact .pure _
  split
  · exact .pure _
  refine .bind (goes_compared? hcall "__lt" _ _) fun result => ?_
  cases result with
  | some result => exact .pure _
  | none => exact goes_failCompare _ _

theorem goes_lessOrEqual (a b : Datum) :
    G.Same n (lessOrEqual call a b) (lessOrEqual call' a b) := by
  unfold lessOrEqual
  split
  · exact .pure _
  split
  · exact .pure _
  refine .bind (goes_compared? hcall "__le" _ _) fun result => ?_
  cases result with
  | some result => exact .pure _
  | none =>
    refine .bind (goes_compared? hcall "__lt" _ _) fun result => ?_
    cases result with
    | some result => exact .pure _
    | none => exact goes_failCompare _ _

theorem goes_binary (op : BinaryOp) (a b : Datum) :
    G.Same n (binary call op a b) (binary call' op a b) := by
  unfold binary
  split
  · exact goes_concat hcall a b
  · exact .bind (goes_equals hcall a b) fun _ => .pure _
  · exact .bind (goes_equals hcall a b) fun _ => .pure _
  · exact .bind (goes_less hcall a b) fun _ => .pure _
  · exact .bind (goes_lessOrEqual hcall a b) fun _ => .pure _
  · exact .bind (goes_less hcall b a) fun _ => .pure _
  · exact .bind (goes_lessOrEqual hcall b a) fun _ => .pure _
  · exact goes_arithmetic hcall _ a b

theorem goes_length (d : Datum) : G.Same n (length call d) (length call' d) := by
  unfold length
  split
  · exact .pure _
  refine .bind (goes_metamethod _ "__len") fun handler => ?_
  split
  · exact goes_first hcall _ _
  split
  · exact .bind (.findBorder _) fun _ => .pure _
  · exact .fail _

theorem goes_unary (op : UnaryOp) (d : Datum) : G.Same n (unary call op d) (unary call' op d) := by
  unfold unary
  split
  · exact .pure _
  · exact goes_length hcall d
  · split
    · exact .pure _
    refine .bind (goes_metamethod d "__unm") fun handler => ?_
    split
    · exact .fail _
    · exact goes_first hcall _ _
  · split
    · exact .pure _
    refine .bind (goes_metamethod d "__bnot") fun handler => ?_
    split
    · exact .fail _
    · exact goes_first hcall _ _

theorem goes_describe (d : Datum) : G.Same n (describe call d) (describe call' d) := by
  refine .bind (goes_metamethod d "__tostring") fun handler => ?_
  cases d
  all_goals
    dsimp only
    split
    on_goal 1 =>
      refine .bind (hcall.goes _ _) fun ds => ?_
      split
      · exact .pure _
      · exact .fail_bind _
  -- a value without a handler is described as its type tells
  case table =>
    refine .bind (goes_metamethod _ "__name") fun name => ?_
    split <;> exact .pure _
  all_goals exact .pure _

end Operation

/-! Library functions. -/

namespace Library

open Guard

section Argument

theorem goes_badArgument {α : Type} (position : ℕ) (reason : String) :
    G.Same n (badArgument position reason : Run α) (badArgument position reason) :=
  .fail _

theorem goes_wrongType {α : Type} (args : List Datum) (position : ℕ) (expected : String) :
    G.Same n (wrongType args position expected : Run α) (wrongType args position expected) :=
  .fail _

theorem goes_any (args : List Datum) (position : ℕ) :
    G.Same n (any args position) (any args position) := by
  unfold any
  split
  · exact goes_badArgument _ _
  · exact .pure _

theorem goes_table (args : List Datum) (position : ℕ) :
    G.Same n (table args position) (table args position) := by
  unfold table
  split
  · exact .pure _
  · exact goes_wrongType _ _ _

theorem goes_function (args : List Datum) (position : ℕ) :
    G.Same n (function args position) (function args position) := by
  unfold function
  dsimp only
  split
  · exact .pure _
  · exact goes_wrongType _ _ _

theorem goes_number (args : List Datum) (position : ℕ) :
    G.Same n (number args position) (number args position) := by
  unfold number
  split
  · exact .pure _
  · exact goes_wrongType _ _ _

theorem goes_integer (args : List Datum) (position : ℕ) :
    G.Same n (integer args position) (integer args position) := by
  refine .bind (goes_number args position) fun x => ?_
  split
  · exact .pure _
  · exact goes_badArgument _ _

theorem goes_integerOr (args : List Datum) (position : ℕ) (otherwise : Int) :
    G.Same n (integerOr args position otherwise) (integerOr args position otherwise) := by
  unfold integerOr
  split
  · exact .pure _
  · exact goes_integer _ _

theorem goes_text (args : List Datum) (position : ℕ) :
    G.Same n (text args position) (text args position) := by
  unfold text
  split
  · exact .pure _
  · exact goes_wrongType _ _ _

theorem goes_textOr (args : List Datum) (position : ℕ) (otherwise : Bytes) :
    G.Same n (textOr args position otherwise) (textOr args position otherwise) := by
  unfold textOr
  split
  · exact .pure _
  · exact goes_text _ _

end Argument

section Basic

theorem goes_raiseAt {α : Type} (trace : Trace) (level : Int) (d : Datum) :
    G.Same n (raiseAt trace level d : Run α) (raiseAt trace level d) := by
  unfold raiseAt
  split <;> exact .raise _

theorem goes_assert (trace : Trace) (args : List Datum) :
    G.Same n (assert trace args) (assert trace args) := by
  refine .bind (goes_any args 1) fun condition => ?_
  split
  · exact .pure _
  · split <;> exact goes_raiseAt _ _ _

theorem goes_error (trace : Trace) (args : List Datum) :
    G.Same n (error trace args) (error trace args) :=
  .bind (goes_integerOr args 2 1) fun _ => goes_raiseAt _ _ _

theorem goes_getmetatable (args : List Datum) :
    G.Same n (getmetatable args) (getmetatable args) := by
  refine .bind (goes_any args 1) fun d => .bind (Operation.goes_metatable? d) fun place => ?_
  split
  · exact .pure _
  · exact .bind (.rawGet _ _) fun _ => .pure _

theorem goes_setmetatable (args : List Datum) :
    G.Same n (setmetatable args) (setmetatable args) := by
  refine .bind (goes_table args 1) fun place => ?_
  have hchange (metatable : Option ℕ) : G.Same n
      (do
        if !(← Operation.metamethod (.table place) "__metatable").isNil then
          Run.fail "cannot change a protected metatable"
        else
          Run.modifyTable place fun t => { t with metatable }
          return [Datum.table place])
      (do
        if !(← Operation.metamethod (.table place) "__metatable").isNil then
          Run.fail "cannot change a protected metatable"
        else
          Run.modifyTable place fun t => { t with metatable }
          return [Datum.table place]) := by
    refine .bind (Operation.goes_metamethod _ _) fun shield => ?_
    split
    · exact .fail _
    · exact .bind (.modifyTable _ _) fun _ => .pure _
  dsimp only
  split
  · exact hchange _
  · split
    · exact goes_wrongType _ _ _
    · exact hchange _
  · exact goes_wrongType _ _ _

theorem goes_next (args : List Datum) : G.Same n (next args) (next args) := by
  refine .bind (goes_table args 1) fun place => .bind (.readTable place) fun t => ?_
  split
  · exact .fail _
  · exact .pure _
  · exact .pure _

theorem goes_ipairs (args : List Datum) : G.Same n (ipairs args) (ipairs args) :=
  .bind (goes_any args 1) fun _ => .pure _

theorem goes_rawequal (args : List Datum) : G.Same n (rawequal args) (rawequal args) :=
  .bind (goes_any args 1) fun _ => .bind (goes_any args 2) fun _ => .pure _

theorem goes_rawget (args : List Datum) : G.Same n (rawget args) (rawget args) :=
  .bind (goes_table args 1) fun _ => .bind (goes_any args 2) fun _ =>
    .bind (.rawGet _ _) fun _ => .pure _

theorem goes_rawset (args : List Datum) : G.Same n (rawset args) (rawset args) :=
  .bind (goes_table args 1) fun _ => .bind (goes_any args 2) fun _ =>
    .bind (goes_any args 3) fun _ => .bind (.rawSet _ _ _) fun _ => .pure _

theorem goes_rawlen (args : List Datum) : G.Same n (rawlen args) (rawlen args) := by
  unfold rawlen
  split
  · exact .bind (.findBorder _) fun _ => .pure _
  · exact .pure _
  · exact goes_wrongType _ _ _

theorem goes_select (args : List Datum) : G.Same n (select args) (select args) := by
  unfold select
  dsimp only
  split
  · exact .pure _
  refine .bind (goes_integer args 1) fun k => ?_
  split
  · exact .pure _
  split
  · exact .pure _
  · exact goes_badArgument _ _

theorem goes_tonumber (args : List Datum) : G.Same n (tonumber args) (tonumber args) := by
  unfold tonumber
  split
  · exact .bind (goes_any args 1) fun _ => .pure _
  refine .bind (goes_integer args 2) fun base => ?_
  split
  · split
    · exact .pure _
    · exact goes_badArgument _ _
  · exact goes_wrongType _ _ _

theorem goes_type (args : List Datum) : G.Same n (type args) (type args) :=
  .bind (goes_any args 1) fun _ => .pure _

variable (hcall : G.Alike call call')
include hcall

theorem goes_pairs (args : List Datum) : G.Same n (pairs call args) (pairs call' args) := by
  refine .bind (goes_any args 1) fun object =>
    .bind (Operation.goes_metamethod object "__pairs") fun handler => ?_
  split
  · exact .pure _
  · exact .bind (hcall.goes _ _) fun _ => .pure _

theorem goes_ipairsStep (args : List Datum) :
    G.Same n (ipairsStep call args) (ipairsStep call' args) :=
  .bind (goes_integer args 2) fun _ => .bind (Operation.goes_index hcall _ _) fun _ => .pure _

theorem goes_pcall (args : List Datum) : G.Same n (pcall call args) (pcall call' args) := by
  unfold pcall
  split
  · exact .raise_bind _
  · refine .bind (.attempt (hcall.goes _ _)) fun result => ?_
    split <;> exact .pure _

theorem goes_tostring (args : List Datum) :
    G.Same n (tostring call args) (tostring call' args) :=
  .bind (goes_any args 1) fun d => .bind (Operation.goes_describe hcall d) fun _ => .pure _

end Basic

namespace Text

theorem goes_sub (args : List Datum) : G.Same n (sub args) (sub args) :=
  .bind (goes_text args 1) fun _ => .bind (goes_integer args 2) fun _ =>
    .bind (goes_integerOr args 3 _) fun _ => .pure _

theorem goes_byte (args : List Datum) : G.Same n (byte args) (byte args) :=
  .bind (goes_text args 1) fun _ => .bind (goes_integerOr args 2 _) fun _ =>
    .bind (goes_integerOr args 3 _) fun _ => .pure _

theorem goes_char (args : List Datum) : G.Same n (char args) (char args) := by
  refine .bind (.mapM (fun i => .bind (goes_integer args (i + 1)) fun k => ?_) _) fun _ => .pure _
  split
  · exact .pure _
  · exact goes_badArgument _ _

theorem goes_len (args : List Datum) : G.Same n (len args) (len args) :=
  .bind (goes_text args 1) fun _ => .pure _

theorem goes_reverse (args : List Datum) : G.Same n (reverse args) (reverse args) :=
  .bind (goes_text args 1) fun _ => .pure _

theorem goes_lower (args : List Datum) : G.Same n (lower args) (lower args) :=
  .bind (goes_text args 1) fun _ => .pure _

theorem goes_upper (args : List Datum) : G.Same n (upper args) (upper args) :=
  .bind (goes_text args 1) fun _ => .pure _

theorem goes_rep (args : List Datum) : G.Same n (rep args) (rep args) := by
  refine .bind (goes_text args 1) fun s => .bind (goes_integer args 2) fun k =>
    .bind (goes_textOr args 3 _) fun separator => ?_
  split
  · exact .fail _
  · split <;> exact .pure _

variable (hcall : G.Alike call call')
include hcall

theorem goes_formatFrom (args : List Datum) (fuel : ℕ) (cs : List Char) (position : ℕ)
    (out : Bytes) :
    G.Same n (formatFrom call args fuel cs position out)
      (formatFrom call' args fuel cs position out) := by
  induction fuel generalizing cs position out with
  | zero =>
    unfold formatFrom
    exact .pure _
  | succ fuel ih =>
    unfold formatFrom
    split
    · exact .pure _
    · exact .pure _
    · next heq => cases heq; exact ih _ _ _
    · next heq =>
      cases heq
      split
      refine .bind (goes_any args _) fun value => ?_
      split
      · exact .when _ (.fail _) (.bind (goes_integer args _) fun _ => ih _ _ _)
      · exact .when _ (.fail _) (.bind (goes_integer args _) fun _ => ih _ _ _)
      · exact .bind (Operation.goes_describe hcall value) fun s =>
          .when _ (.fail _) (.when _ (goes_badArgument _ _) (ih _ _ _))
      · exact .fail _
    · next heq => cases heq; exact ih _ _ _

theorem goes_format (args : List Datum) : G.Same n (format call args) (format call' args) :=
  .bind (goes_text args 1) fun _ => .bind (goes_formatFrom hcall args _ _ _ _) fun _ => .pure _

end Text

namespace Numeric

theorem goes_abs (args : List Datum) : G.Same n (abs args) (abs args) := by
  unfold abs
  split
  · exact .pure _
  · exact .bind (goes_number args 1) fun _ => .pure _

theorem goes_unrounded (args : List Datum) : G.Same n (unrounded args) (unrounded args) := by
  unfold unrounded
  split
  · exact .pure _
  · exact .bind (goes_number args 1) fun _ => .pure _

theorem goes_floor (args : List Datum) : G.Same n (floor args) (floor args) :=
  .bind (goes_unrounded args) fun _ => .pure _

theorem goes_ceil (args : List Datum) : G.Same n (ceil args) (ceil args) :=
  .bind (goes_unrounded args) fun _ => .pure _

theorem goes_type (args : List Datum) : G.Same n (type args) (type args) := by
  refine .bind (goes_any args 1) fun d => ?_
  split <;> exact .pure _

theorem goes_toInteger (args : List Datum) : G.Same n (toInteger args) (toInteger args) := by
  refine .bind (goes_any args 1) fun d => ?_
  split <;> exact .pure _

theorem goes_extreme (hcall : G.Alike call call') (swapped : Bool) (args : List Datum) :
    G.Same n (extreme call swapped args) (extreme call' swapped args) := by
  refine .bind (goes_number args 1) fun _ =>
    .bind (.forIn (fun i best => .bind (goes_number args (i + 2)) fun _ => ?_) _ _) fun _ => .pure _
  dsimp only
  split
  · refine .bind (Operation.goes_less hcall _ _) fun better => ?_
    split <;> exact .pure _
  · refine .bind (Operation.goes_less hcall _ _) fun better => ?_
    split <;> exact .pure _

end Numeric

namespace Sequence

variable (hcall : G.Alike call call')
include hcall

theorem goes_get (object : Datum) (position : Int) :
    G.Same n (get call object position) (get call' object position) :=
  Operation.goes_index hcall _ _

theorem goes_put (object : Datum) (position : Int) (value : Datum) :
    G.Same n (put call object position value) (put call' object position value) :=
  Operation.goes_setIndex hcall _ _ _

theorem goes_length (args : List Datum) : G.Same n (length call args) (length call' args) := by
  refine .bind (goes_table args 1) fun place =>
    .bind (Operation.goes_length hcall _) fun size => ?_
  split
  · exact .pure _
  · exact .fail _

omit hcall in
theorem goes_collect {α : Type} {f g : Int → Run α} (hfg : ∀ i, G.Same n (f i) (g i))
    (count : ℕ) (position : Int) (out : List α) :
    G.Same n (collect f count position out) (collect g count position out) := by
  induction count generalizing position out with
  | zero => exact .pure _
  | succ count ih => exact .bind (hfg position) fun _ => ih _ _

theorem goes_concat (args : List Datum) : G.Same n (concat call args) (concat call' args) := by
  refine .bind (goes_length hcall args) fun size => .bind (goes_textOr args 2 _) fun separator =>
    .bind (goes_integerOr args 3 _) fun first => .bind (goes_integerOr args 4 _) fun last =>
    .bind (goes_collect (fun position => .bind (goes_get hcall _ position) fun d => ?_) _ _ _)
      fun _ => .pure _
  split
  · exact .pure _
  · exact .fail _

theorem goes_moveUp (object : Datum) (position : Int) (count : ℕ) :
    G.Same n (moveUp call object position count) (moveUp call' object position count) := by
  induction count with
  | zero => exact .pure _
  | succ count ih =>
    exact .bind (goes_get hcall _ _) fun _ => .bind (goes_put hcall _ _ _) fun _ => ih

theorem goes_moveDown (object : Datum) (position : Int) (count : ℕ) :
    G.Same n (moveDown call object position count) (moveDown call' object position count) := by
  induction count generalizing position with
  | zero => exact .pure _
  | succ count ih =>
    exact .bind (goes_get hcall _ _) fun _ => .bind (goes_put hcall _ _ _) fun _ => ih _

theorem goes_insert (args : List Datum) : G.Same n (insert call args) (insert call' args) := by
  refine .bind (goes_length hcall args) fun size => ?_
  dsimp only
  split
  · exact .bind (goes_put hcall _ _ _) fun _ => .pure _
  · refine .bind (goes_integer _ 2) fun position => ?_
    split
    · exact .bind (goes_moveUp hcall _ _ _) fun _ => .bind (goes_put hcall _ _ _) fun _ => .pure _
    · exact goes_badArgument _ _
  · exact .fail _

theorem goes_remove (args : List Datum) : G.Same n (remove call args) (remove call' args) := by
  refine .bind (goes_length hcall args) fun size =>
    .bind (goes_integerOr args 2 _) fun position => ?_
  split
  · exact goes_badArgument _ _
  · exact .bind (goes_get hcall _ _) fun _ => .bind (goes_moveDown hcall _ _ _) fun _ =>
      .bind (goes_put hcall _ _ _) fun _ => .pure _

theorem goes_unpack (args : List Datum) : G.Same n (unpack call args) (unpack call' args) := by
  have hcollect (first last : Int) : G.Same n
      (if unpackLimit ≤ last - first then Run.fail "too many results to unpack"
        else collect (get call (argument args 1)) (last + 1 - first).toNat first [])
      (if unpackLimit ≤ last - first then Run.fail "too many results to unpack"
        else collect (get call' (argument args 1)) (last + 1 - first).toNat first []) := by
    split
    · exact .fail _
    · exact goes_collect (goes_get hcall _) _ _ _
  refine .bind (goes_integerOr args 2 1) fun first => ?_
  dsimp only
  split
  · refine .bind (Operation.goes_length hcall _) fun size => ?_
    split
    · exact hcollect _ _
    · exact .fail_bind _
  · exact .bind (goes_integer args 3) fun _ => hcollect _ _

omit hcall in
theorem goes_pack (args : List Datum) : G.Same n (pack args) (pack args) :=
  .bind (.newTable _) fun _ => .pure _

theorem goes_precedes (order a b : Datum) :
    G.Same n (precedes call order a b) (precedes call' order a b) := by
  unfold precedes
  split
  · exact Operation.goes_less hcall a b
  · exact .bind (hcall.goes _ _) fun _ => .pure _

theorem goes_putBoth (object : Datum) (i j : Int) (a b : Datum) :
    G.Same n (putBoth call object i j a b) (putBoth call' object i j a b) :=
  .bind (goes_put hcall _ _ _) fun _ => goes_put hcall _ _ _

theorem goes_orderPair (object order : Datum) (low high : Int) :
    G.Same n (orderPair call object order low high) (orderPair call' object order low high) := by
  refine .bind (goes_get hcall _ _) fun a => .bind (goes_get hcall _ _) fun b =>
    .bind (goes_precedes hcall _ _ _) fun swapped => ?_
  split
  · exact .bind (goes_putBoth hcall _ _ _ _ _) fun _ => .pure _
  · exact .pure _

theorem goes_seekUp (object order pivot : Datum) (high : Int) (fuel : ℕ) (i : Int) :
    G.Same n (seekUp call object order pivot high fuel i)
      (seekUp call' object order pivot high fuel i) := by
  induction fuel generalizing i with
  | zero => exact .fail _
  | succ fuel ih =>
    refine .bind (goes_get hcall _ _) fun value =>
      .bind (goes_precedes hcall _ _ _) fun before => ?_
    split
    · split
      · exact .fail _
      · exact ih _
    · exact .pure _

theorem goes_seekDown (object order pivot : Datum) (i : Int) (fuel : ℕ) (j : Int) :
    G.Same n (seekDown call object order pivot i fuel j)
      (seekDown call' object order pivot i fuel j) := by
  induction fuel generalizing j with
  | zero => exact .fail _
  | succ fuel ih =>
    refine .bind (goes_get hcall _ _) fun value =>
      .bind (goes_precedes hcall _ _ _) fun before => ?_
    split
    · split
      · exact .fail _
      · exact ih _
    · exact .pure _

theorem goes_part (object order pivot : Datum) (high : Int) (fuel : ℕ) (i j : Int) :
    G.Same n (part call object order pivot high fuel i j)
      (part call' object order pivot high fuel i j) := by
  induction fuel generalizing i j with
  | zero => exact .pure _
  | succ fuel ih =>
    refine .bind (goes_seekUp hcall _ _ _ _ _ _) fun up =>
      .bind (goes_seekDown hcall _ _ _ _ _ _) fun down => ?_
    obtain ⟨i, atI⟩ := up
    obtain ⟨j, atJ⟩ := down
    dsimp only
    split
    · exact .bind (goes_get hcall _ _) fun _ => .bind (goes_putBoth hcall _ _ _ _ _) fun _ =>
        .pure _
    · exact .bind (goes_putBoth hcall _ _ _ _ _) fun _ => ih _ _

theorem goes_sortBetween (object order : Datum) (fuel : ℕ) (low high : Int) :
    G.Same n (sortBetween call object order fuel low high)
      (sortBetween call' object order fuel low high) := by
  induction fuel generalizing low high with
  | zero => exact .pure _
  | succ fuel ih =>
    unfold sortBetween
    split
    · exact .pure _
    refine .bind (goes_orderPair hcall _ _ _ _) fun _ => ?_
    split
    · exact .pure _
    refine .bind (goes_orderPair hcall _ _ _ _) fun swapped =>
      .when _ (goes_orderPair hcall _ _ _ _) ?_
    split
    · exact .pure _
    refine .bind (goes_get hcall _ _) fun pivot => .bind (goes_get hcall _ _) fun beside =>
      .bind (goes_putBoth hcall _ _ _ _ _) fun _ => .bind (goes_part hcall _ _ _ _ _ _ _)
        fun place => ?_
    split <;> exact .bind (ih _ _) fun _ => ih _ _

theorem goes_sort (args : List Datum) : G.Same n (sort call args) (sort call' args) := by
  refine .bind (goes_length hcall args) fun size => ?_
  have hsorted (order : Datum) : G.Same (α := List Datum) n
      (if pow2 31 - 1 ≤ size then do
        let _ ← badArgument (α := Unit) 1 "array too big"
        return []
      else do
        sortBetween call (argument args 1) order size.toNat 1 size
        return [])
      (if pow2 31 - 1 ≤ size then do
        let _ ← badArgument (α := Unit) 1 "array too big"
        return []
      else do
        sortBetween call' (argument args 1) order size.toNat 1 size
        return []) := by
    split
    · exact .bind (goes_badArgument _ _) fun _ => .pure _
    · exact .bind (goes_sortBetween hcall _ _ _ _ _) fun _ => .pure _
  dsimp only
  split
  · split
    · exact hsorted _
    · exact .bind (goes_function args 2) hsorted
  · exact .pure _

end Sequence

end Library

/-! All of them. -/

theorem Primitive.goes_apply (hcall : G.Alike call call') (trace : Trace) (p : Primitive)
    (args : List Datum) :
    G.Same n (p.apply call trace args) (p.apply call' trace args) := by
  cases p with
  | assert => exact Library.goes_assert trace args
  | error => exact Library.goes_error trace args
  | getmetatable => exact Library.goes_getmetatable args
  | ipairs => exact Library.goes_ipairs args
  | ipairsStep => exact Library.goes_ipairsStep hcall args
  | next => exact Library.goes_next args
  | pairs => exact Library.goes_pairs hcall args
  | pcall => exact Library.goes_pcall hcall args
  | print => exact .pure _
  | rawequal => exact Library.goes_rawequal args
  | rawget => exact Library.goes_rawget args
  | rawlen => exact Library.goes_rawlen args
  | rawset => exact Library.goes_rawset args
  | select => exact Library.goes_select args
  | setmetatable => exact Library.goes_setmetatable args
  | tonumber => exact Library.goes_tonumber args
  | tostring => exact Library.goes_tostring hcall args
  | type => exact Library.goes_type args
  | stringByte => exact Library.Text.goes_byte args
  | stringChar => exact Library.Text.goes_char args
  | stringFormat => exact Library.Text.goes_format hcall args
  | stringLen => exact Library.Text.goes_len args
  | stringLower => exact Library.Text.goes_lower args
  | stringRep => exact Library.Text.goes_rep args
  | stringReverse => exact Library.Text.goes_reverse args
  | stringSub => exact Library.Text.goes_sub args
  | stringUpper => exact Library.Text.goes_upper args
  | tableConcat => exact Library.Sequence.goes_concat hcall args
  | tableInsert => exact Library.Sequence.goes_insert hcall args
  | tablePack => exact Library.Sequence.goes_pack args
  | tableRemove => exact Library.Sequence.goes_remove hcall args
  | tableSort => exact Library.Sequence.goes_sort hcall args
  | tableUnpack => exact Library.Sequence.goes_unpack hcall args
  | mathAbs => exact Library.Numeric.goes_abs args
  | mathCeil => exact Library.Numeric.goes_ceil args
  | mathFloor => exact Library.Numeric.goes_floor args
  | mathMax => exact Library.Numeric.goes_extreme hcall false args
  | mathMin => exact Library.Numeric.goes_extreme hcall true args
  | mathToInteger => exact Library.Numeric.goes_toInteger args
  | mathType => exact Library.Numeric.goes_type args
  | coroutineCreate =>
    exact .bind (Library.goes_function args 1) fun _ => .bind .newThread fun _ => .pure _

end Docbase.Script
