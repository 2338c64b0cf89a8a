/-!
# Scripts

Script code as trees over a type of constants. Code is written with literals and run with values,
which come of creating each literal once, in the order they stand in.
-/
namespace ScriptBridge

mutual

inductive Expr (γ : Type) where
  | constant (c : γ)
  | global (name : String)
  | index (of key : Expr γ)
  | call (function : Expr γ) (args : List (Expr γ))
  /-- Looks a function up in a value and calls it with that value as the first argument. -/
  | method (of : Expr γ) (name : String) (args : List (Expr γ))
  | protectedCall (function : Expr γ) (args : List (Expr γ))
  | display (of : Expr γ)
  /-- A function without parameters and results, which sees only globals. -/
  | lambda (body : List (Stmt γ))

inductive Stmt (γ : Type) where
  | assign (name : String) (value : Expr γ)
  | evaluate (e : Expr γ)
  | raise (e : Expr γ)
  | loop (times : Nat) (body : List (Stmt γ))

end

mutual

/-- The constants of an expression, in the order they stand in. -/
def Expr.constants {γ : Type} : Expr γ → List γ
  | .constant c => [c]
  | .global _ => []
  | .index of key => of.constants ++ key.constants
  | .call f args => f.constants ++ constantsOfArgs args
  | .method of _ args => of.constants ++ constantsOfArgs args
  | .protectedCall f args => f.constants ++ constantsOfArgs args
  | .display of => of.constants
  | .lambda body => constantsOfBody body

def constantsOfArgs {γ : Type} : List (Expr γ) → List γ
  | [] => []
  | e :: es => e.constants ++ constantsOfArgs es

def Stmt.constants {γ : Type} : Stmt γ → List γ
  | .assign _ e => e.constants
  | .evaluate e => e.constants
  | .raise e => e.constants
  | .loop _ body => constantsOfBody body

def constantsOfBody {γ : Type} : List (Stmt γ) → List γ
  | [] => []
  | s :: ss => s.constants ++ constantsOfBody ss

end

universe u

mutual

variable {γ δ : Type} {m : Type → Type u} [Monad m]

/-- The expression over the constants that `f` makes, from left to right. -/
def Expr.realize (f : γ → m δ) : Expr γ → m (Expr δ)
  | .constant c => return .constant (← f c)
  | .global name => return .global name
  | .index of key => return .index (← of.realize f) (← key.realize f)
  | .call g args => return .call (← g.realize f) (← realizeArgs f args)
  | .method of name args => return .method (← of.realize f) name (← realizeArgs f args)
  | .protectedCall g args => return .protectedCall (← g.realize f) (← realizeArgs f args)
  | .display of => return .display (← of.realize f)
  | .lambda body => return .lambda (← realizeBody f body)

def realizeArgs (f : γ → m δ) : List (Expr γ) → m (List (Expr δ))
  | [] => return []
  | e :: es => return (← e.realize f) :: (← realizeArgs f es)

def Stmt.realize (f : γ → m δ) : Stmt γ → m (Stmt δ)
  | .assign name e => return .assign name (← e.realize f)
  | .evaluate e => return .evaluate (← e.realize f)
  | .raise e => return .raise (← e.realize f)
  | .loop times body => return .loop times (← realizeBody f body)

def realizeBody (f : γ → m δ) : List (Stmt γ) → m (List (Stmt δ))
  | [] => return []
  | s :: ss => return (← s.realize f) :: (← realizeBody f ss)

end

end ScriptBridge
