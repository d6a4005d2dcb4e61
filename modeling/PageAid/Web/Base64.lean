import PageAid.Web.Utf8

/-!
Base 64: three bytes become four letters; a last group of one or two bytes is filled up with `=`.
-/

namespace PageAid.Web

def base64Letter (n : Nat) : Char :=
  if n < 26 then Char.ofNat (0x41 + n)
  else if n < 52 then Char.ofNat (0x61 + (n - 26))
  else if n < 62 then Char.ofNat (0x30 + (n - 52))
  else if n == 62 then '+' else '/'

def base64 : Bytes → List Char
  | a :: b :: c :: r =>
    let n := a.toNat * 65536 + b.toNat * 256 + c.toNat
    base64Letter (n / 262144) :: base64Letter (n / 4096 % 64) :: base64Letter (n / 64 % 64) ::
      base64Letter (n % 64) :: base64 r
  | [a, b] =>
    let n := a.toNat * 1024 + b.toNat * 4
    [base64Letter (n / 4096), base64Letter (n / 64 % 64), base64Letter (n % 64), '=']
  | [a] =>
    let n := a.toNat * 16
    [base64Letter (n / 64), base64Letter (n % 64), '=', '=']
  | [] => []

end PageAid.Web
