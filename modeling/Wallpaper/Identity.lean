/-! The three kinds of number a host hands out. The library compares and forwards them and
never interprets one; each kind is a type of its own so that they cannot be mixed up. -/
namespace Wallpaper

structure DisplayId where
  number : UInt32
deriving DecidableEq

/-- One group on its display. A display may carry several at once, for example while one
wallpaper replaces another. -/
structure TokenId where
  number : UInt32
deriving DecidableEq

/-- One surface. Two handles with the same number stand for the same surface. -/
structure SurfaceId where
  number : UInt32
deriving DecidableEq

/-- Log lines and messages name a surface by a hash sign and its number. -/
instance : ToString SurfaceId where
  toString id := "#" ++ toString id.number

end Wallpaper
