import TrafficWatch.Text.Marks

/-!
The direction in which a word is written. Among words from right to left, a word must show by its
first and its last character where it begins and ends.
-/

namespace TrafficWatch.Text

inductive Direction where
  | left
  | right
  | europeanNumber
  | arabicNumber
  | neutral
  /-- As the character before. -/
  | mark
deriving DecidableEq, Repr

def rightward : Ranges := .ofLines [
    "5be 5c0 5c3 5c6 5d0-5f4 608 60b 60d 61b-64a 66d-66f 671-6d5 6e5-6e6 6ee-6ef 6fa-710 712-72f",
    "74d-7a5 7b1-7ea 7f4-7f5 7fa 7fe-815 81a 824 828 830-858 85e-88e 8a0-8c9 fbb2-fbc2 fe73",
    "10800-1091b 10920-10a00 10a10-10a35 10a40-10ae4 10aeb-10b35 10b40-10d23 10e80-10ea9",
    "10ead-10eb1 10f00-10f45 10f51-10f81 10f86-10ff6 1e800-1e8cf 1e922-1e943 1e94b-1ed3d"]

def arabicNumbers : Ranges := .ofLines [
    "660-669 66b-66c 10d30-10e7e"]

def europeanNumbers : Ranges := .ofLines [
    "6f0-6f9 102e1-102fb"]

def directionless : Ranges := .ofLines [
    "a1-d7 f7 2b9-2ba 2c2-2cf 2d2-2ed 2ef-2ff 375 3f6 58a-58f 606-607 609-60a 60c 60e-60f 66a 6de",
    "6e9 7f6-7f9 9f2-9f3 9fb af1 bf3-bfa c78-c7e e3f f3a-f3d 1390-1399 1400 169b-169c 17db",
    "17f0-180a 1940-1945 19de-19ff 200c-20c0 2104-214d 218a-2335 237b-2394 2396-26ab 26ad-27ff",
    "2900-2bff 2ce5-2cea 2cf9-2cff 2e00-3004 3008-3020 3030 3037 303d-303f 30a0 30fb 31c0-31e3",
    "4dc0-4dff a490-a4c6 a60d-a60f a673 a67e-a67f a700-a721 a788 a828-a82b a838-a839 a874-a877",
    "ab6a-ab6b fd3e-fdff fe45-fe46 10101 10140-1018c 10190-101a0 1091f 10b39-10b3f 11052-11065",
    "11660-1166c 11fd5-11ff1 16fe2 1d1e9-1d241 1d245 1d300-1d356 1e2ff 1eef0-1f12f 1f16d-1f16f",
    "1f1ad 1f260-1fbca"]

def directionOf (c : Char) : Direction :=
  let n := c.toNat
  if n < 0x80 then
    if c.isAlpha then .left else if c.isDigit then .europeanNumber else .neutral
  else if rightward.contains n then .right
  else if arabicNumbers.contains n then .arabicNumber
  else if europeanNumbers.contains n then .europeanNumber
  else if directionless.contains n then .neutral
  else if isNonspacing c then .mark
  else .left

/-- Whether some part of a text goes from right to left. -/
def hasRightward (cs : List Char) : Bool :=
  cs.any fun c => directionOf c == .right || directionOf c == .arabicNumber

/-- A word has one direction, begins with a letter of that direction, and ends in one or in a number.
Numbers of both kinds do not stand together in a word from right to left. -/
def isWellDirected (word : List Char) : Bool :=
  match word.map directionOf with
  | [] => true
  | first :: rest =>
    let rest := (rest.reverse.dropWhile (· == .mark)).reverse
    let last := rest.getLast?.getD first
    match first with
    | .left => ! rest.contains .right && ! rest.contains .arabicNumber &&
        (last == .left || last == .europeanNumber)
    | .right => ! rest.contains .left &&
        ! (rest.contains .europeanNumber && rest.contains .arabicNumber) &&
        (last == .right || last == .europeanNumber || last == .arabicNumber)
    | _ => false

end TrafficWatch.Text
