/-!
Bytes written with sixty-four letters: three bytes become four letters, and the last group is filled
up with equals signs.
-/

namespace Orchestra.Text

def base64Letters : List Char :=
  "ABCDEFGHIJKLMNOPQRSTUVWXYZabcdefghijklmnopqrstuvwxyz0123456789+/".toList

/-- The letter of six bits. -/
def base64Letter (bits : Nat) : Char :=
  (base64Letters[bits % 64]?).getD '='

def base64 : List UInt8 → List Char
  | [] => []
  | [a] =>
    let bits := a.toNat * 16
    [base64Letter (bits / 64), base64Letter bits, '=', '=']
  | [a, b] =>
    let bits := (a.toNat * 256 + b.toNat) * 4
    [base64Letter (bits / 4096), base64Letter (bits / 64), base64Letter bits, '=']
  | a :: b :: c :: rest =>
    let bits := (a.toNat * 256 + b.toNat) * 256 + c.toNat
    base64Letter (bits / 262144) :: base64Letter (bits / 4096) :: base64Letter (bits / 64)
      :: base64Letter bits :: base64 rest

theorem base64_length (bytes : List UInt8) :
    (base64 bytes).length = (bytes.length + 2) / 3 * 4 := by
  fun_induction base64 bytes with
  | case1 => rfl
  | case2 => simp
  | case3 => simp
  | case4 a b c rest bits ih =>
    simp only [List.length_cons, ih]
    omega

example : base64 [102, 111, 111, 98, 97, 114, 33] = "Zm9vYmFyIQ==".toList := by decide

end Orchestra.Text
