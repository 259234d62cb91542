import TrafficWatch.Text.Ranges

/-!
Upper case by the full Unicode mapping, in which one character may become several.
-/

namespace TrafficWatch.Text

/-- The code points from `first` to `last`, all of them or every second one, move by `offset`. -/
structure CaseShift where
  first : Nat
  last : Nat
  step : Nat
  offset : Int

/-- Written `first-last` and then `:` or, for every second one, `/`, and the signed offset. -/
def CaseShift.ofWord (w : List Char) : CaseShift :=
  let isMark := fun c => c == ':' || c == '/'
  let range := rangeOfWord (w.takeWhile (! isMark ·))
  let rest := w.dropWhile (! isMark ·)
  let size := hexValue (rest.drop 2)
  { first := range.1
    last := range.2
    step := if rest.take 1 == ['/'] then 2 else 1
    offset := if (rest.drop 1).take 1 == ['-'] then -(size : Int) else size }

def CaseShift.ofLines (lines : List String) : Array CaseShift :=
  ((lines.flatMap words).filter (! ·.isEmpty)).map CaseShift.ofWord |>.toArray

def CaseShift.covers (s : CaseShift) (n : Nat) : Bool :=
  s.first ≤ n && n ≤ s.last && (n - s.first) % s.step == 0

def upperShifts : Array CaseShift := CaseShift.ofLines [
    "61-7a:-20 b5-b5:+2e7 e0-f6:-20 f8-fe:-20 ff-ff:+79 101-12f/-1 131-131:-e8 133-137/-1",
    "13a-148/-1 14b-177/-1 17a-17e/-1 17f-17f:-12c 180-180:+c3 183-185/-1 188-188:-1",
    "18c-18c:-1 192-192:-1 195-195:+61 199-199:-1 19a-19a:+a3 19b-19b:+a641 19e-19e:+82",
    "1a1-1a5/-1 1a8-1a8:-1 1ad-1ad:-1 1b0-1b0:-1 1b4-1b6/-1 1b9-1b9:-1 1bd-1bd:-1 1bf-1bf:+38",
    "1c5-1c5:-1 1c6-1c6:-2 1c8-1c8:-1 1c9-1c9:-2 1cb-1cb:-1 1cc-1cc:-2 1ce-1dc/-1 1dd-1dd:-4f",
    "1df-1ef/-1 1f2-1f2:-1 1f3-1f3:-2 1f5-1f5:-1 1f9-21f/-1 223-233/-1 23c-23c:-1",
    "23f-240:+2a3f 242-242:-1 247-24f/-1 250-250:+2a1f 251-251:+2a1c 252-252:+2a1e",
    "253-253:-d2 254-254:-ce 256-257:-cd 259-259:-ca 25b-25b:-cb 25c-25c:+a54f 260-260:-cd",
    "261-261:+a54b 263-263:-cf 264-264:+a567 265-265:+a528 266-266:+a544 268-268:-d1",
    "269-269:-d3 26a-26a:+a544 26b-26b:+29f7 26c-26c:+a541 26f-26f:-d3 271-271:+29fd",
    "272-272:-d5 275-275:-d6 27d-27d:+29e7 280-280:-da 282-282:+a543 283-283:-da",
    "287-287:+a52a 288-288:-da 289-289:-45 28a-28b:-d9 28c-28c:-47 292-292:-db 29d-29d:+a515",
    "29e-29e:+a512 345-345:+54 371-373/-1 377-377:-1 37b-37d:+82 3ac-3ac:-26 3ad-3af:-25",
    "3b1-3c1:-20 3c2-3c2:-1f 3c3-3cb:-20 3cc-3cc:-40 3cd-3ce:-3f 3d0-3d0:-3e 3d1-3d1:-39",
    "3d5-3d5:-2f 3d6-3d6:-36 3d7-3d7:-8 3d9-3ef/-1 3f0-3f0:-56 3f1-3f1:-50 3f2-3f2:+7",
    "3f3-3f3:-74 3f5-3f5:-60 3f8-3f8:-1 3fb-3fb:-1 430-44f:-20 450-45f:-50 461-481/-1",
    "48b-4bf/-1 4c2-4ce/-1 4cf-4cf:-f 4d1-52f/-1 561-586:-30 10d0-10fa:+bc0 10fd-10ff:+bc0",
    "13f8-13fd:-8 1c80-1c80:-186e 1c81-1c81:-186d 1c82-1c82:-1864 1c83-1c84:-1862",
    "1c85-1c85:-1863 1c86-1c86:-185c 1c87-1c87:-1825 1c88-1c88:+89c2 1c8a-1c8a:-1",
    "1d79-1d79:+8a04 1d7d-1d7d:+ee6 1d8e-1d8e:+8a38 1e01-1e95/-1 1e9b-1e9b:-3b 1ea1-1eff/-1",
    "1f00-1f07:+8 1f10-1f15:+8 1f20-1f27:+8 1f30-1f37:+8 1f40-1f45:+8 1f51-1f57/+8",
    "1f60-1f67:+8 1f70-1f71:+4a 1f72-1f75:+56 1f76-1f77:+64 1f78-1f79:+80 1f7a-1f7b:+70",
    "1f7c-1f7d:+7e 1fb0-1fb1:+8 1fbe-1fbe:-1c25 1fd0-1fd1:+8 1fe0-1fe1:+8 1fe5-1fe5:+7",
    "214e-214e:-1c 2170-217f:-10 2184-2184:-1 24d0-24e9:-1a 2c30-2c5f:-30 2c61-2c61:-1",
    "2c65-2c65:-2a2b 2c66-2c66:-2a28 2c68-2c6c/-1 2c73-2c73:-1 2c76-2c76:-1 2c81-2ce3/-1",
    "2cec-2cee/-1 2cf3-2cf3:-1 2d00-2d25:-1c60 2d27-2d27:-1c60 2d2d-2d2d:-1c60 a641-a66d/-1",
    "a681-a69b/-1 a723-a72f/-1 a733-a76f/-1 a77a-a77c/-1 a77f-a787/-1 a78c-a78c:-1",
    "a791-a793/-1 a794-a794:+30 a797-a7a9/-1 a7b5-a7c3/-1 a7c8-a7ca/-1 a7cd-a7cd:-1",
    "a7d1-a7d1:-1 a7d7-a7db/-1 a7f6-a7f6:-1 ab53-ab53:-3a0 ab70-abbf:-97d0 ff41-ff5a:-20",
    "10428-1044f:-28 104d8-104fb:-28 10597-105a1:-27 105a3-105b1:-27 105b3-105b9:-27",
    "105bb-105bc:-27 10cc0-10cf2:-40 10d70-10d85:-20 118c0-118df:-20 16e60-16e7f:-20",
    "1e922-1e943:-22"]

/-- A code point, and those of its upper case. -/
def expansionOfWord (w : List Char) : Nat × List Nat :=
  (hexValue (w.takeWhile (· != '=')),
    (((w.dropWhile (· != '=')).drop 1).splitOn ',').map hexValue)

/-- The characters whose upper case is longer than one character. -/
def upperExpansions : Array (Nat × List Nat) :=
  (([
    "df=53,53 149=2bc,4e 1f0=4a,30c 390=399,308,301 3b0=3a5,308,301 587=535,552 1e96=48,331",
    "1e97=54,308 1e98=57,30a 1e99=59,30a 1e9a=41,2be 1f50=3a5,313 1f52=3a5,313,300",
    "1f54=3a5,313,301 1f56=3a5,313,342 1f80=1f08,399 1f81=1f09,399 1f82=1f0a,399",
    "1f83=1f0b,399 1f84=1f0c,399 1f85=1f0d,399 1f86=1f0e,399 1f87=1f0f,399 1f88=1f08,399",
    "1f89=1f09,399 1f8a=1f0a,399 1f8b=1f0b,399 1f8c=1f0c,399 1f8d=1f0d,399 1f8e=1f0e,399",
    "1f8f=1f0f,399 1f90=1f28,399 1f91=1f29,399 1f92=1f2a,399 1f93=1f2b,399 1f94=1f2c,399",
    "1f95=1f2d,399 1f96=1f2e,399 1f97=1f2f,399 1f98=1f28,399 1f99=1f29,399 1f9a=1f2a,399",
    "1f9b=1f2b,399 1f9c=1f2c,399 1f9d=1f2d,399 1f9e=1f2e,399 1f9f=1f2f,399 1fa0=1f68,399",
    "1fa1=1f69,399 1fa2=1f6a,399 1fa3=1f6b,399 1fa4=1f6c,399 1fa5=1f6d,399 1fa6=1f6e,399",
    "1fa7=1f6f,399 1fa8=1f68,399 1fa9=1f69,399 1faa=1f6a,399 1fab=1f6b,399 1fac=1f6c,399",
    "1fad=1f6d,399 1fae=1f6e,399 1faf=1f6f,399 1fb2=1fba,399 1fb3=391,399 1fb4=386,399",
    "1fb6=391,342 1fb7=391,342,399 1fbc=391,399 1fc2=1fca,399 1fc3=397,399 1fc4=389,399",
    "1fc6=397,342 1fc7=397,342,399 1fcc=397,399 1fd2=399,308,300 1fd3=399,308,301",
    "1fd6=399,342 1fd7=399,308,342 1fe2=3a5,308,300 1fe3=3a5,308,301 1fe4=3a1,313",
    "1fe6=3a5,342 1fe7=3a5,308,342 1ff2=1ffa,399 1ff3=3a9,399 1ff4=38f,399 1ff6=3a9,342",
    "1ff7=3a9,342,399 1ffc=3a9,399 fb00=46,46 fb01=46,49 fb02=46,4c fb03=46,46,49",
    "fb04=46,46,4c fb05=53,54 fb06=53,54 fb13=544,546 fb14=544,535 fb15=544,53b fb16=54e,546",
    "fb17=544,53d"] : List String).flatMap words).map expansionOfWord |>.toArray

def upperChar (c : Char) : List Char :=
  if c.toNat < 0x80 then [c.toUpper]
  else
    match upperExpansions.find? (·.1 == c.toNat) with
    | some (_, us) => us.map Char.ofNat
    | none =>
      match upperShifts.find? (·.covers c.toNat) with
      | some s => [Char.ofNat (c.toNat + s.offset).toNat]
      | none => [c]

def upper (s : String) : String := String.ofList (s.toList.flatMap upperChar)

end TrafficWatch.Text
