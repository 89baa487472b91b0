import ScreenAgent.Text.Integer

namespace ScreenAgent

structure Duration where
  nanoseconds : Nat
deriving DecidableEq, Inhabited

namespace Duration

/-- A part of a unit in decimals behind a point; nothing if there is no such part. -/
def decimals (places part : Nat) : List Char :=
  let ds := ((Text.padded places part).reverse.dropWhile (· == '0')).reverse
  if ds = [] then [] else '.' :: ds

def inUnit (places : Nat) (name : List Char) (n : Nat) : List Char :=
  Text.ofNat (n / Nat.pow 10 places) ++ decimals places (n % Nat.pow 10 places) ++ name

def toText (d : Duration) : List Char :=
  let n := d.nanoseconds
  if 1000000000 ≤ n then inUnit 9 ['s'] n
  else if 1000000 ≤ n then inUnit 6 ['m', 's'] n
  else if 1000 ≤ n then inUnit 3 ['µ', 's'] n
  else inUnit 0 ['n', 's'] n

end Duration

end ScreenAgent
