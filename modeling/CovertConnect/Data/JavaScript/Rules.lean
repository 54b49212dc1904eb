import CovertConnect.Data.JavaScript.Interpreter

namespace CovertConnect.Data.JavaScript

/-! # A part of JavaScript: rules

What is needed for an expression, a statement or a loop to end as it does, one
rule for each way of doing so. -/

variable {natives : Natives} {scope middle after last : Scope} {fuel : Nat}

def Evaluates (natives : Natives) (scope : Scope) (expr : Expr) (value : Value) (after : Scope) :
    Prop :=
  eval natives expr scope = (.ok value, after)

def EvaluatesAll (natives : Natives) (scope : Scope) (exprs : List Expr) (values : List Value)
    (after : Scope) : Prop :=
  evalAll natives exprs scope = (.ok values, after)

def Executes (natives : Natives) (fuel : Nat) (scope : Scope) (statement : Stmt)
    (completion : Completion) (after : Scope) : Prop :=
  exec natives fuel statement scope = (.ok completion, after)

def ExecutesAll (natives : Natives) (fuel : Nat) (scope : Scope) (statements : List Stmt)
    (completion : Completion) (after : Scope) : Prop :=
  execAll natives fuel statements scope = (.ok completion, after)

theorem joinedAll_texts (texts : List Text) : joinedAll (texts.map .text) = .ok texts := by
  induction texts with
  | nil => rfl
  | cons text texts ih =>
      rw [List.map_cons, joinedAll, joined, ih]
      rfl

theorem method_join (texts : List Text) (separator : UInt16) :
    method (.array (texts.map .text)) "join" [.text [separator]] =
      .ok (.text ([separator].intercalate texts)) := by
  rw [method, joinedAll_texts]
  rfl

theorem method_slice {texts : List Text} {count : Nat} (enough : count ≤ texts.length) :
    method (.array (texts.map .text)) "slice" [.number (texts.length - count)] =
      .ok (.array ((texts.drop (texts.length - count)).map .text)) := by
  have start : ((texts.length : Int) - count).toNat = texts.length - count := by omega
  rw [method, sliceFrom, if_neg (by omega), start, List.map_drop]

/-- A text that is not found has the index `-1`. -/
theorem indexOf_ne {texts : List Text} {wanted : Text} :
    indexOf (texts.map .text) wanted ≠ -1 ↔ wanted ∈ texts := by
  rw [indexOf]
  cases found : (texts.map Value.text).findIdx? (isText wanted) with
  | none =>
      rw [List.findIdx?_eq_none_iff] at found
      simp only [ne_eq, not_true_eq_false, false_iff]
      intro listed
      have other := found (.text wanted) (List.mem_map_of_mem listed)
      simp [isText] at other
  | some position =>
      obtain ⟨inside, same, _⟩ := List.findIdx?_eq_some_iff_getElem.mp found
      simp only [List.getElem_map, isText, decide_eq_true_iff] at same
      have listed : wanted ∈ texts := same ▸ List.getElem_mem _
      simp only [listed, iff_true]
      omega

theorem lookup_variable {name : String} {value : Value} (known : scope name = some value) :
    lookup natives name scope = (.ok value, scope) := by
  simp only [lookup, Exec.bind_ok (Exec.get_apply scope), known, Exec.pure_apply]

theorem lookup_native {name : String} {body : List Value → Value} (free : scope name = none)
    (known : natives name = some body) :
    lookup natives name scope = (.ok (.native name), scope) := by
  simp [lookup, Exec.bind_ok (Exec.get_apply scope), free, known]

theorem lookup_unknown {name : String} (free : scope name = none) (unknown : natives name = none) :
    lookup natives name scope = (.err (.referenceError name), scope) := by
  simp [lookup, Exec.bind_ok (Exec.get_apply scope), free, unknown]

theorem lift_ok {outcome : Outcome Throw Value} {value : Value} (ended : outcome = .ok value) :
    (Exec.lift outcome : Exec Scope Throw Value) scope = (.ok value, scope) := by
  rw [ended, Exec.lift_apply]

namespace EvaluatesAll

theorem nil : EvaluatesAll natives scope [] [] scope := rfl

theorem cons {expr : Expr} {exprs : List Expr} {value : Value} {values : List Value}
    (first : Evaluates natives scope expr value middle)
    (more : EvaluatesAll natives middle exprs values after) :
    EvaluatesAll natives scope (expr :: exprs) (value :: values) after :=
  (Exec.bind_ok first _).trans (Exec.bind_ok more _)

theorem single {expr : Expr} {value : Value} (only : Evaluates natives scope expr value after) :
    EvaluatesAll natives scope [expr] [value] after :=
  cons only nil

end EvaluatesAll

namespace Evaluates

theorem number (value : Nat) : Evaluates natives scope (.number value) (.number value) scope := rfl

theorem text (value : Text) : Evaluates natives scope (.text value) (.text value) scope := rfl

theorem regex {body : List Char} {pieces : List Piece} (parsed : parseRegex body = some pieces) :
    Evaluates natives scope (.regex body) (.regex pieces) scope := by
  rw [Evaluates, eval, parsed]
  rfl

theorem name {name : String} {value : Value} (known : scope name = some value) :
    Evaluates natives scope (.name name) value scope :=
  lookup_variable known

theorem native {name : String} {body : List Value → Value} (free : scope name = none)
    (known : natives name = some body) :
    Evaluates natives scope (.name name) (.native name) scope :=
  lookup_native free known

theorem array {items : List Expr} {values : List Value}
    (each : EvaluatesAll natives scope items values after) :
    Evaluates natives scope (.array items) (.array values) after :=
  Exec.bind_ok each _

theorem member {object : Expr} {name : String} {value result : Value}
    (inner : Evaluates natives scope object value after)
    (read : property value name = .ok result) :
    Evaluates natives scope (.member object name) result after :=
  (Exec.bind_ok inner _).trans (lift_ok read)

theorem index {object position : Expr} {value number result : Value}
    (inner : Evaluates natives scope object value middle)
    (counted : Evaluates natives middle position number after)
    (read : element value number = .ok result) :
    Evaluates natives scope (.index object position) result after :=
  (Exec.bind_ok inner _).trans ((Exec.bind_ok counted _).trans (lift_ok read))

theorem invoke {object : Expr} {name : String} {arguments : List Expr} {value result : Value}
    {values : List Value} (inner : Evaluates natives scope object value middle)
    (each : EvaluatesAll natives middle arguments values after)
    (called : method value name values = .ok result) :
    Evaluates natives scope (.call (.member object name) arguments) result after :=
  (Exec.bind_ok inner _).trans ((Exec.bind_ok each _).trans (lift_ok called))

theorem call {name : String} {arguments : List Expr} {values : List Value}
    {body : List Value → Value} (free : scope name = none) (known : natives name = some body)
    (each : EvaluatesAll natives scope arguments values after) :
    Evaluates natives scope (.call (.name name) arguments) (body values) after := by
  have function : Evaluates natives scope (.name name) (.native name) scope := native free known
  have called : callValue natives (.native name) values = .ok (body values) := by
    rw [callValue, known]
  exact (Exec.bind_ok function _).trans ((Exec.bind_ok each _).trans (lift_ok called))

theorem negate {operand : Expr} {value result : Value}
    (inner : Evaluates natives scope operand value after)
    (computed : JavaScript.negate value = .ok result) :
    Evaluates natives scope (.negate operand) result after :=
  (Exec.bind_ok inner _).trans (lift_ok computed)

theorem or_true {left right : Expr} {value : Value}
    (first : Evaluates natives scope left value after) (yes : truthy value = true) :
    Evaluates natives scope (.binary .or left right) value after := by
  apply (Exec.bind_ok first _).trans
  rw [if_pos yes]
  rfl

theorem or_false {left right : Expr} {value result : Value}
    (first : Evaluates natives scope left value middle) (no : truthy value = false)
    (second : Evaluates natives middle right result after) :
    Evaluates natives scope (.binary .or left right) result after := by
  apply (Exec.bind_ok first _).trans
  rw [if_neg (by simp [no])]
  exact second

theorem binary {operator : Operator} {left right : Expr} {first second result : Value}
    (strict : operator ≠ .or) (front : Evaluates natives scope left first middle)
    (back : Evaluates natives middle right second after)
    (computed : apply operator first second = .ok result) :
    Evaluates natives scope (.binary operator left right) result after := by
  have run : (do
      let left ← eval natives left
      let right ← eval natives right
      Exec.lift (apply operator left right) : Exec Scope Throw Value) scope = (.ok result, after) :=
    (Exec.bind_ok front _).trans ((Exec.bind_ok back _).trans (lift_ok computed))
  cases operator with
  | or => exact absurd rfl strict
  | _ => exact run

theorem assign {name : String} {expr : Expr} {value : Value}
    (inner : Evaluates natives scope expr value after) :
    Evaluates natives scope (.assign name expr) value (after.assign name value) :=
  Exec.bind_ok inner _

theorem increment {name : String} {value : Int} (known : scope name = some (.number value)) :
    Evaluates natives scope (.increment name) (.number value)
      (scope.assign name (.number (value + 1))) :=
  Exec.bind_ok (lookup_variable known) _

end Evaluates

def Loops (natives : Natives) (fuel turns : Nat) (scope : Scope) (condition update : Expr)
    (body : Stmt) (completion : Completion) (after : Scope) : Prop :=
  loop (eval natives condition) (eval natives update) (exec natives fuel body) turns scope =
    (.ok completion, after)

namespace Loops

variable {condition update : Expr} {body : Stmt} {value : Value} {turns : Nat}

theorem done (tested : Evaluates natives scope condition value after) (no : truthy value = false) :
    Loops natives fuel (turns + 1) scope condition update body .normal after := by
  apply (Exec.bind_ok tested _).trans
  rw [if_neg (by simp [no])]
  rfl

theorem broken (tested : Evaluates natives scope condition value middle)
    (yes : truthy value = true) (run : Executes natives fuel middle body .broken after) :
    Loops natives fuel (turns + 1) scope condition update body .normal after := by
  apply (Exec.bind_ok tested _).trans
  rw [if_pos yes]
  exact Exec.bind_ok run _

theorem returned {result : Value} (tested : Evaluates natives scope condition value middle)
    (yes : truthy value = true) (run : Executes natives fuel middle body (.returned result) after) :
    Loops natives fuel (turns + 1) scope condition update body (.returned result) after := by
  apply (Exec.bind_ok tested _).trans
  rw [if_pos yes]
  exact Exec.bind_ok run _

theorem turn {next ready : Scope} {updated : Value} {completion : Completion}
    (tested : Evaluates natives scope condition value middle) (yes : truthy value = true)
    (run : Executes natives fuel middle body .normal next)
    (counted : Evaluates natives next update updated ready)
    (rest : Loops natives fuel turns ready condition update body completion after) :
    Loops natives fuel (turns + 1) scope condition update body completion after := by
  apply (Exec.bind_ok tested _).trans
  rw [if_pos yes]
  exact (Exec.bind_ok run _).trans ((Exec.bind_ok counted _).trans rest)

end Loops

namespace Executes

theorem expr {expr : Expr} {value : Value} (inner : Evaluates natives scope expr value after) :
    Executes natives fuel scope (.expr expr) .normal after :=
  Exec.bind_ok inner _

theorem conditional_true {condition : Expr} {body : Stmt} {value : Value} {completion : Completion}
    (tested : Evaluates natives scope condition value middle) (yes : truthy value = true)
    (run : Executes natives fuel middle body completion after) :
    Executes natives fuel scope (.conditional condition body) completion after := by
  apply (Exec.bind_ok tested _).trans
  rw [if_pos yes]
  exact run

theorem conditional_false {condition : Expr} {body : Stmt} {value : Value}
    (tested : Evaluates natives scope condition value after) (no : truthy value = false) :
    Executes natives fuel scope (.conditional condition body) .normal after := by
  apply (Exec.bind_ok tested _).trans
  rw [if_neg (by simp [no])]
  rfl

theorem forLet {name : String} {init condition update : Expr} {body : Stmt} {value : Value}
    {completion : Completion} (first : Evaluates natives scope init value middle)
    (run : Loops natives fuel fuel (middle.assign name value) condition update body completion
      after) :
    Executes natives fuel scope (.forLet name init condition update body) completion
      (Function.update after name (middle name)) :=
  (Exec.bind_ok first _).trans (Exec.bind_ok run _)

theorem returned {expr : Expr} {value : Value} (inner : Evaluates natives scope expr value after) :
    Executes natives fuel scope (.return (some expr)) (.returned value) after :=
  Exec.bind_ok inner _

theorem broken : Executes natives fuel scope .break .broken scope := rfl

theorem block {statements : List Stmt} {completion : Completion}
    (run : ExecutesAll natives fuel scope statements completion after) :
    Executes natives fuel scope (.block statements) completion after :=
  run

end Executes

namespace ExecutesAll

theorem nil : ExecutesAll natives fuel scope [] .normal scope := rfl

theorem cons {statement : Stmt} {statements : List Stmt} {completion : Completion}
    (first : Executes natives fuel scope statement .normal middle)
    (more : ExecutesAll natives fuel middle statements completion after) :
    ExecutesAll natives fuel scope (statement :: statements) completion after :=
  (Exec.bind_ok first _).trans more

/-- Nothing is done behind a `break` or a `return`. -/
theorem stop {statement : Stmt} {statements : List Stmt} {completion : Completion}
    (first : Executes natives fuel scope statement completion after)
    (leaves : completion ≠ .normal) :
    ExecutesAll natives fuel scope (statement :: statements) completion after := by
  apply (Exec.bind_ok first _).trans
  cases completion with
  | normal => exact absurd rfl leaves
  | broken => rfl
  | returned value => rfl

theorem single {statement : Stmt} {completion : Completion}
    (only : Executes natives fuel scope statement completion after) :
    ExecutesAll natives fuel scope [statement] completion after := by
  apply (Exec.bind_ok only _).trans
  cases completion <;> rfl

end ExecutesAll

section Errors

variable {error : Throw}

/-- A name that stands for nothing. -/
theorem eval_call_unknown {name : String} {arguments : List Expr} (free : scope name = none)
    (unknown : natives name = none) :
    eval natives (.call (.name name) arguments) scope = (.err (.referenceError name), scope) :=
  Exec.bind_err (lookup_unknown free unknown) _

theorem eval_or_throws {left right : Expr}
    (thrown : eval natives left scope = (.err error, after)) :
    eval natives (.binary .or left right) scope = (.err error, after) :=
  Exec.bind_err thrown _

theorem exec_condition_throws {condition : Expr} {body : Stmt}
    (thrown : eval natives condition scope = (.err error, after)) :
    exec natives fuel (.conditional condition body) scope = (.err error, after) :=
  Exec.bind_err thrown _

theorem exec_conditional_throws {condition : Expr} {body : Stmt} {value : Value}
    (tested : Evaluates natives scope condition value middle) (yes : truthy value = true)
    (thrown : exec natives fuel body middle = (.err error, after)) :
    exec natives fuel (.conditional condition body) scope = (.err error, after) := by
  apply (Exec.bind_ok tested _).trans
  rw [if_pos yes]
  exact thrown

theorem execAll_throws {statement : Stmt} {statements : List Stmt}
    (thrown : exec natives fuel statement scope = (.err error, after)) :
    execAll natives fuel (statement :: statements) scope = (.err error, after) :=
  Exec.bind_err thrown _

end Errors

theorem callFunction_throws {function : Function} {arguments : List Value} {globals : Scope}
    {error : Throw}
    (thrown : execAll natives fuel function.body
      (bindParameters function.parameters arguments globals) = (.err error, after)) :
    callFunction natives fuel function arguments globals = .err error := by
  rw [callFunction, thrown]
  rfl

theorem callFunction_returned {function : Function} {arguments : List Value} {globals : Scope}
    {value : Value}
    (run : ExecutesAll natives fuel (bindParameters function.parameters arguments globals)
      function.body (.returned value) after) :
    callFunction natives fuel function arguments globals = .ok value := by
  rw [ExecutesAll] at run
  rw [callFunction, run]
  rfl

/-- A script of one function, and a call of it. -/
theorem evaluate_single {source : List Char} {function : Function}
    (parsed : parse source = some [function]) (arguments : List Value) :
    evaluate natives fuel source function.name arguments =
      callFunction natives fuel function arguments
        (Scope.assign function.name (.declared function.name) fun _ => none) := by
  simp [evaluate, parsed, declare]

end CovertConnect.Data.JavaScript
