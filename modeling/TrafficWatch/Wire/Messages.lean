/-!
The other messages of the control API.
-/

namespace TrafficWatch.Wire

structure LogRecord where
  level : String
  payload : String := ""
deriving DecidableEq, Repr

/-- The compiler and platform that a server was built with. -/
structure Toolchain where
  os : String := ""
  arch : String := ""
  version : String := ""
deriving DecidableEq, Repr

structure Revision where
  url : String := ""
  branch : String := ""
  commit : String := ""
deriving DecidableEq, Repr

structure Version where
  name : String := ""
  version : String := ""
  buildTime : String := ""
  toolchain : Toolchain := {}
  revision : Revision := {}
deriving DecidableEq, Repr

/-- What the server says when it refuses a request. -/
structure ApiError where
  code : Int := 0
  message : String := ""
deriving DecidableEq, Repr

end TrafficWatch.Wire
