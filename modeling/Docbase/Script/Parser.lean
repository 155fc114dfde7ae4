import Docbase.Script.Lexer
import Docbase.Script.Syntax

/-!
Reading tokens as a script. Operators bind by the two numbers beside each of them: a part is
read as far as operators bind tighter on the left than a limit, and the right number is the
limit for the operand after the operator. Every function gives the rest of the tokens. Parts
nest up to a limit; beyond it a text is refused for another reason than its form.
-/
namespace Docbase.Script

/-- Why a text is no script. -/
inductive Refusal where
  | malformed
  | tooDeep
  deriving DecidableEq, Repr

/-- What stands between two operands. -/
inductive Connective where
  | operator (op : BinaryOp)
  | and
  | or

namespace Connective

def join (c : Connective) (line : Nat) (a b : Expr) : Expr :=
  match c with
  | .operator op => .binary line op a b
  | .and => .and a b
  | .or => .or a b

/-- The operator of a token, and how tightly it binds to its left and to its right. -/
def ofToken? : Token → Option (Connective × Nat × Nat)
  | .keyword .orK => some (.or, 1, 1)
  | .keyword .andK => some (.and, 2, 2)
  | .symbol .less => some (.operator .lt, 3, 3)
  | .symbol .greater => some (.operator .gt, 3, 3)
  | .symbol .lessEqual => some (.operator .le, 3, 3)
  | .symbol .greaterEqual => some (.operator .ge, 3, 3)
  | .symbol .notEqual => some (.operator .ne, 3, 3)
  | .symbol .equal => some (.operator .eq, 3, 3)
  | .symbol .bar => some (.operator .bitOr, 4, 4)
  | .symbol .tilde => some (.operator .bitXor, 5, 5)
  | .symbol .ampersand => some (.operator .bitAnd, 6, 6)
  | .symbol .shiftLeft => some (.operator .shiftLeft, 7, 7)
  | .symbol .shiftRight => some (.operator .shiftRight, 7, 7)
  | .symbol .dotDot => some (.operator .concat, 9, 8)
  | .symbol .plus => some (.operator .add, 10, 10)
  | .symbol .minus => some (.operator .sub, 10, 10)
  | .symbol .star => some (.operator .mul, 11, 11)
  | .symbol .slash => some (.operator .div, 11, 11)
  | .symbol .slashSlash => some (.operator .floorDiv, 11, 11)
  | .symbol .percent => some (.operator .mod, 11, 11)
  | .symbol .caret => some (.operator .pow, 14, 13)
  | _ => none

end Connective

namespace Parser

/-- How deep statements and expressions may nest. -/
def depthLimit : Nat := 200

/-- What is read, and the rest of the tokens. -/
abbrev Read (α : Type) := α × List Located

def refuse : Except Refusal α := .error .malformed

/-- The depth inside a part. -/
def inside (depth : Nat) : Except Refusal Nat :=
  if depth + 1 < depthLimit then .ok (depth + 1) else .error .tooDeep

/-- How tightly the operators with one operand bind. -/
def unaryLimit : Nat := 12

def unaryOp? : Token → Option UnaryOp
  | .keyword .notK => some .not
  | .symbol .minus => some .negate
  | .symbol .hash => some .length
  | .symbol .tilde => some .bitNot
  | _ => none

/-- Whether a block ends before the tokens. -/
def endsBlock : List Located → Bool
  | [] => true
  | (.keyword .elseK, _) :: _ | (.keyword .elseifK, _) :: _ | (.keyword .endK, _) :: _
  | (.keyword .untilK, _) :: _ => true
  | _ => false

/-- Whether a symbol comes next. -/
def startsWith (s : Symbol) : List Located → Bool
  | (.symbol t, _) :: _ => s == t
  | _ => false

/-- Drops a symbol that must come next. -/
def expect (s : Symbol) (ts : List Located) : Except Refusal (List Located) :=
  if startsWith s ts then .ok ts.tail else refuse

def expectKeyword (k : Keyword) : List Located → Except Refusal (List Located)
  | (.keyword l, _) :: rest => if k = l then .ok rest else refuse
  | _ => refuse

def fieldKey (name : String) : Expr := .text (Utf8.encode name)

/-- Names with commas between them. -/
def names : List Located → Except Refusal (Read (List String))
  | (.name x, _) :: (.symbol .comma, _) :: rest => do
    let (xs, rest) ← names rest
    return (x :: xs, rest)
  | (.name x, _) :: rest => .ok ([x], rest)
  | _ => refuse

/-- Parameters up to the closing parenthesis, and whether dots come last. -/
def params : List Located → Except Refusal (Read (List String × Bool))
  | (.symbol .closeParen, _) :: rest => .ok (([], false), rest)
  | (.symbol .dots, _) :: (.symbol .closeParen, _) :: rest => .ok (([], true), rest)
  | (.name x, _) :: (.symbol .closeParen, _) :: rest => .ok (([x], false), rest)
  | (.name x, _) :: (.symbol .comma, _) :: rest => do
    let ((xs, variadic), rest) ← params rest
    if xs.isEmpty && !variadic then refuse else return ((x :: xs, variadic), rest)
  | _ => refuse

/-- Names of local variables, each perhaps with an attribute. -/
def localNames : List Located → Except Refusal (Read (List LocalName))
  | (.name x, _) :: (.symbol .less, _) :: (.name a, _) :: (.symbol .greater, _) :: rest =>
    if a = "const" ∨ a = "close" then
      match rest with
      | (.symbol .comma, _) :: rest => do
        let (xs, rest) ← localNames rest
        return (⟨x, true⟩ :: xs, rest)
      | rest => .ok ([⟨x, true⟩], rest)
    else refuse
  | (.name x, _) :: (.symbol .comma, _) :: rest => do
    let (xs, rest) ← localNames rest
    return (⟨x, false⟩ :: xs, rest)
  | (.name x, _) :: rest => .ok ([⟨x, false⟩], rest)
  | _ => refuse

/-- What a function declaration assigns to: a name, perhaps fields of it, perhaps a method. -/
def functionTarget (object : Expr) : List Located → Except Refusal (Read (Expr × Bool))
  | (.symbol .dot, _) :: (.name x, line) :: rest =>
    functionTarget (.index line object (fieldKey x)) rest
  | (.symbol .colon, _) :: (.name x, line) :: rest =>
    .ok ((.index line object (fieldKey x), true), rest)
  | (.symbol .dot, _) :: _ | (.symbol .colon, _) :: _ => refuse
  | rest => .ok ((object, false), rest)

def target : Expr → Except Refusal Target
  | .name _ x => .ok (.name x)
  | .index _ object key => .ok (.index object key)
  | _ => refuse

mutual

/-- An expression whose operators bind tighter than the limit. -/
def expr : Nat → Nat → Nat → List Located → Except Refusal (Read Expr)
  | 0, _, _, _ => refuse
  | fuel + 1, depth, limit, ts => do
    let depth ← inside depth
    let (a, ts) ← operand fuel depth ts
    operators fuel depth limit a ts
termination_by structural fuel => fuel

def operators : Nat → Nat → Nat → Expr → List Located → Except Refusal (Read Expr)
  | 0, _, _, _, _ => refuse
  | _ + 1, _, _, left, [] => .ok (left, [])
  | fuel + 1, depth, limit, left, (t, line) :: rest =>
    match Connective.ofToken? t with
    | some (c, tightness, rightLimit) =>
      if limit < tightness then do
        let (right, ts) ← expr fuel depth rightLimit rest
        operators fuel depth limit (c.join line left right) ts
      else .ok (left, (t, line) :: rest)
    | none => .ok (left, (t, line) :: rest)
termination_by structural fuel => fuel

def operand : Nat → Nat → List Located → Except Refusal (Read Expr)
  | 0, _, _ => refuse
  | _ + 1, _, [] => refuse
  | fuel + 1, depth, (t, line) :: rest =>
    match unaryOp? t with
    | some op => do
      let (a, ts) ← expr fuel depth unaryLimit rest
      return (.unary line op a, ts)
    | none =>
      match t with
      | .int n => .ok (.int n, rest)
      | .double x => .ok (.double x, rest)
      | .text s => .ok (.text s, rest)
      | .keyword .nilK => .ok (.nil, rest)
      | .keyword .trueK => .ok (.boolean true, rest)
      | .keyword .falseK => .ok (.boolean false, rest)
      | .symbol .dots => .ok (.varargs, rest)
      | .symbol .openBrace => do
        let (items, ts) ← items fuel depth rest
        return (.table line items, ts)
      | .keyword .functionK => do
        let ((params, variadic, body), ts) ← functionBody fuel depth rest
        return (.function params variadic body, ts)
      | t => suffixed fuel depth ((t, line) :: rest)
termination_by structural fuel => fuel

/-- A name or an expression in parentheses with what is applied to it. -/
def suffixed : Nat → Nat → List Located → Except Refusal (Read Expr)
  | 0, _, _ => refuse
  | fuel + 1, depth, ts =>
    match ts with
    | (.name x, line) :: rest => suffixes fuel depth (.name line x) rest
    | (.symbol .openParen, _) :: rest => do
      let (e, ts) ← expr fuel depth 0 rest
      suffixes fuel depth (.paren e) (← expect .closeParen ts)
    | _ => refuse
termination_by structural fuel => fuel

def suffixes : Nat → Nat → Expr → List Located → Except Refusal (Read Expr)
  | 0, _, _, _ => refuse
  | fuel + 1, depth, e, ts =>
    match ts with
    | (.symbol .dot, _) :: (.name x, line) :: rest =>
      suffixes fuel depth (.index line e (fieldKey x)) rest
    | (.symbol .dot, _) :: _ => refuse
    | (.symbol .openBracket, line) :: rest => do
      let (key, ts) ← expr fuel depth 0 rest
      suffixes fuel depth (.index line e key) (← expect .closeBracket ts)
    | (.symbol .colon, _) :: (.name x, line) :: rest => do
      let (args, ts) ← arguments fuel depth rest
      suffixes fuel depth (.method ((rest.head?.map Prod.snd).getD line) e x args) ts
    | (.symbol .colon, _) :: _ => refuse
    | (.symbol .openParen, line) :: _ | (.symbol .openBrace, line) :: _
    | (.text _, line) :: _ => do
      let (args, ts) ← arguments fuel depth ts
      suffixes fuel depth (.call line e args) ts
    | ts => .ok (e, ts)
termination_by structural fuel => fuel

/-- A list in parentheses, a table or a text. -/
def arguments : Nat → Nat → List Located → Except Refusal (Read (List Expr))
  | 0, _, _ => refuse
  | fuel + 1, depth, ts =>
    match ts with
    | (.symbol .openParen, _) :: (.symbol .closeParen, _) :: rest => .ok ([], rest)
    | (.symbol .openParen, _) :: rest => do
      let (es, ts) ← exprs fuel depth rest
      return (es, ← expect .closeParen ts)
    | (.symbol .openBrace, line) :: rest => do
      let (items, ts) ← items fuel depth rest
      return ([.table line items], ts)
    | (.text s, _) :: rest => .ok ([.text s], rest)
    | _ => refuse
termination_by structural fuel => fuel

/-- Expressions with commas between them. -/
def exprs : Nat → Nat → List Located → Except Refusal (Read (List Expr))
  | 0, _, _ => refuse
  | fuel + 1, depth, ts => do
    let (e, ts) ← expr fuel depth 0 ts
    match ts with
    | (.symbol .comma, _) :: rest => do
      let (es, ts) ← exprs fuel depth rest
      return (e :: es, ts)
    | ts => return ([e], ts)
termination_by structural fuel => fuel

/-- The items of a table up to its closing brace. -/
def items : Nat → Nat → List Located → Except Refusal (Read (List Item))
  | 0, _, _ => refuse
  | fuel + 1, depth, ts =>
    match ts with
    | (.symbol .closeBrace, _) :: rest => .ok ([], rest)
    | ts => do
      let (i, ts) ← item fuel depth ts
      match ts with
      | (.symbol .comma, _) :: rest | (.symbol .semicolon, _) :: rest => do
        let (is, ts) ← items fuel depth rest
        return (i :: is, ts)
      | ts => return ([i], ← expect .closeBrace ts)
termination_by structural fuel => fuel

def item : Nat → Nat → List Located → Except Refusal (Read Item)
  | 0, _, _ => refuse
  | fuel + 1, depth, ts =>
    match ts with
    | (.name x, _) :: (.symbol .assign, _) :: rest => do
      let (e, ts) ← expr fuel depth 0 rest
      return (.keyed (fieldKey x) e, ts)
    | (.symbol .openBracket, _) :: rest => do
      let (key, ts) ← expr fuel depth 0 rest
      let (e, ts) ← expr fuel depth 0 (← expect .assign (← expect .closeBracket ts))
      return (.keyed key e, ts)
    | ts => do
      let (e, ts) ← expr fuel depth 0 ts
      return (.positional e, ts)
termination_by structural fuel => fuel

/-- Parameters and body of a function, up to its `end`. -/
def functionBody :
    Nat → Nat → List Located → Except Refusal (Read (List String × Bool × Block))
  | 0, _, _ => refuse
  | fuel + 1, depth, ts => do
    let ((ps, variadic), ts) ← params (← expect .openParen ts)
    let (body, ts) ← block fuel depth ts
    return ((ps, variadic, body), ← expectKeyword .endK ts)
termination_by structural fuel => fuel

/-- Statements up to the end of a block. -/
def block : Nat → Nat → List Located → Except Refusal (Read Block)
  | 0, _, _ => refuse
  | fuel + 1, depth, ts =>
    if endsBlock ts then .ok ([], ts)
    else
      match ts with
      | (.symbol .semicolon, _) :: rest => do
        let _ ← inside depth
        block fuel depth rest
      | (.keyword .returnK, _) :: rest => do
        let inner ← inside depth
        let (es, ts) ←
          if endsBlock rest || startsWith .semicolon rest then .ok ([], rest)
          else exprs fuel inner rest
        let ts := if startsWith .semicolon ts then ts.tail else ts
        if endsBlock ts then return ([.giveBack es], ts) else refuse
      | ts => do
        let (s, ts) ← statement fuel depth ts
        let (rest, ts) ← block fuel depth ts
        return (s :: rest, ts)
termination_by structural fuel => fuel

/-- A block and the `end` after it. -/
def closedBlock : Nat → Nat → List Located → Except Refusal (Read Block)
  | 0, _, _ => refuse
  | fuel + 1, depth, ts => do
    let (body, ts) ← block fuel depth ts
    return (body, ← expectKeyword .endK ts)
termination_by structural fuel => fuel

/-- A condition with its block, and what follows up to `end`. -/
def branches : Nat → Nat → List Located → Except Refusal (Read Stmt)
  | 0, _, _ => refuse
  | fuel + 1, depth, ts => do
    let (condition, ts) ← expr fuel depth 0 ts
    let (whenTrue, ts) ← block fuel depth (← expectKeyword .thenK ts)
    match ts with
    | (.keyword .elseifK, _) :: rest => do
      let (other, ts) ← branches fuel depth rest
      return (.branch condition whenTrue [other], ts)
    | (.keyword .elseK, _) :: rest => do
      let (whenFalse, ts) ← closedBlock fuel depth rest
      return (.branch condition whenTrue whenFalse, ts)
    | ts => return (.branch condition whenTrue [], ← expectKeyword .endK ts)
termination_by structural fuel => fuel

def statement : Nat → Nat → List Located → Except Refusal (Read Stmt)
  | 0, _, _ => refuse
  | fuel + 1, depth, ts => do
    let depth ← inside depth
    match ts with
    | (.keyword .ifK, _) :: rest => branches fuel depth rest
    | (.keyword .whileK, _) :: rest => do
      let (condition, ts) ← expr fuel depth 0 rest
      let (body, ts) ← closedBlock fuel depth (← expectKeyword .doK ts)
      return (.whileLoop condition body, ts)
    | (.keyword .doK, _) :: rest => do
      let (body, ts) ← closedBlock fuel depth rest
      return (.block body, ts)
    | (.keyword .forK, line) :: (.name x, _) :: (.symbol .assign, _) :: rest => do
      let (start, ts) ← expr fuel depth 0 rest
      let (limit, ts) ← expr fuel depth 0 (← expect .comma ts)
      let (step, ts) ←
        if startsWith .comma ts then do
          let (e, ts) ← expr fuel depth 0 ts.tail
          pure (some e, ts)
        else pure (none, ts)
      let (body, ts) ← closedBlock fuel depth (← expectKeyword .doK ts)
      return (.numericFor line x start limit step body, ts)
    | (.keyword .forK, line) :: rest => do
      let (xs, ts) ← names rest
      let (es, ts) ← exprs fuel depth (← expectKeyword .inK ts)
      let (body, ts) ← closedBlock fuel depth (← expectKeyword .doK ts)
      return (.genericFor line xs es body, ts)
    | (.keyword .repeatK, _) :: rest => do
      let (body, ts) ← block fuel depth rest
      let (condition, ts) ← expr fuel depth 0 (← expectKeyword .untilK ts)
      return (.repeatLoop body condition, ts)
    | (.keyword .functionK, line) :: (.name x, _) :: rest => do
      let ((object, isMethod), ts) ← functionTarget (.name line x) rest
      let ((params, variadic, body), ts) ← functionBody fuel depth ts
      let params := if isMethod then "self" :: params else params
      return (.assign line [← target object] [.function params variadic body], ts)
    | (.keyword .localK, _) :: (.keyword .functionK, _) :: (.name x, _) :: rest => do
      let ((params, variadic, body), ts) ← functionBody fuel depth rest
      return (.localFunction x params variadic body, ts)
    | (.keyword .localK, _) :: rest => do
      let (xs, ts) ← localNames rest
      if startsWith .assign ts then
        let (es, ts) ← exprs fuel depth ts.tail
        return (.declare xs es, ts)
      else return (.declare xs [], ts)
    | (.symbol .colonColon, _) :: (.name x, _) :: (.symbol .colonColon, _) :: rest =>
      return (.label x, rest)
    | (.keyword .breakK, _) :: rest => return (.leave, rest)
    | (.keyword .gotoK, _) :: (.name x, _) :: rest => return (.jump x, rest)
    | ts => do
      let (e, ts) ← suffixed fuel depth ts
      if startsWith .assign ts || startsWith .comma ts then
        assignment fuel depth [← target e] ts
      else
        match e with
        | .call .. | .method .. => return (.call e, ts)
        | _ => refuse
termination_by structural fuel => fuel

/-- Further targets, an equals sign and the values; the targets read so far come last
first. -/
def assignment : Nat → Nat → List Target → List Located → Except Refusal (Read Stmt)
  | 0, _, _, _ => refuse
  | fuel + 1, depth, targets, ts =>
    match ts with
    | (.symbol .comma, _) :: rest => do
      let (e, ts) ← suffixed fuel depth rest
      assignment fuel (← inside depth) ((← target e) :: targets) ts
    | (.symbol .assign, line) :: rest => do
      let (es, ts) ← exprs fuel depth rest
      return (.assign line targets.reverse es, ts)
    | _ => refuse
termination_by structural fuel => fuel

end

end Parser

/-- The block that the tokens spell, all of them. -/
def parseTokens (ts : List Located) : Except Refusal Block := do
  match ← Parser.block (8 * ts.length + 16) 0 ts with
  | (body, []) => return body
  | _ => Parser.refuse

end Docbase.Script
