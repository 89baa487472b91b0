namespace ScreenAgent

structure Config where
  bufferCapacity : Nat := 100
  queueCapacity : Nat := 16
  maxNodes : Nat := 10000
  deviceId : Option String := none
deriving DecidableEq

end ScreenAgent
