import MountProbe.Unicode.Category

namespace MountProbe.Unicode

/-- Characters other than nonspacing and enclosing marks that extend the character before
them. -/
def otherExtenders : Ranges := [
  (0x9BE, 0x9BE, 1), (0x9D7, 0x9D7, 1), (0xB3E, 0xB3E, 1), (0xB57, 0xB57, 1), (0xBBE, 0xBBE, 1),
  (0xBD7, 0xBD7, 1), (0xCC2, 0xCC2, 1), (0xCD5, 0xCD6, 1), (0xD3E, 0xD3E, 1), (0xD57, 0xD57, 1),
  (0xDCF, 0xDCF, 1), (0xDDF, 0xDDF, 1), (0x1B35, 0x1B35, 1), (0x200C, 0x200C, 1),
  (0x302E, 0x302F, 1), (0xFF9E, 0xFF9F, 1), (0x1133E, 0x1133E, 1), (0x11357, 0x11357, 1),
  (0x114B0, 0x114B0, 1), (0x114BD, 0x114BD, 1), (0x115AF, 0x115AF, 1), (0x11930, 0x11930, 1),
  (0x1D165, 0x1D165, 1), (0x1D16E, 0x1D172, 1), (0xE0020, 0xE007F, 1)]

def extendsPrevious (c : Char) : Bool :=
  (Category.nonspacingMark ++ Category.enclosingMark ++ otherExtenders).contains c.toNat

/-- The character has a shape of its own: it is a letter, mark, number, punctuation or symbol, or
the plain space. -/
def isPrintable (c : Char) : Bool :=
  c == ' ' ||
    (Category.letter ++ Category.mark ++ Category.number ++ Category.punctuation ++
      Category.symbol).contains c.toNat

end MountProbe.Unicode
