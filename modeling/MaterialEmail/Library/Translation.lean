import MaterialEmail.Library.Program

/-! Programs some of whose operations are programs themselves, over operations of a lower kind. -/
namespace Interrupted.Program

variable {Op Op' : Type} {Reply : Op → Type} {Reply' : Op' → Type} {ε ε' α β : Type}

/-- Every operation is carried out by a program, which cannot fail but may answer with an error. -/
def translate (carryOut : (op : Op) → Program Op' Reply' Empty (Reply op)) :
    Program Op Reply ε α → Program Op' Reply' ε α
  | .done value => .done value
  | .throw error => .throw error
  | .call op next => (carryOut op).resume fun
    | .ok reply => (next reply).translate carryOut
    | .error error => nomatch error

variable {carryOut : (op : Op) → Program Op' Reply' Empty (Reply op)}

end Interrupted.Program
