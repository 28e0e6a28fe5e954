import IndentTex.FileTree

/-!
# Texts as bytes

The shell counts and compares bytes. Here a byte is the character with its number, so a text of bytes
is a text of characters below 256.
-/

namespace IndentTex.Simulation

/-- The bytes of content. -/
def ofContent (content : Content) : Text := content.map fun b => Char.ofNat b.toNat

/-- The content that bytes make up. -/
def toContent (bytes : Text) : Content := bytes.map fun c => UInt8.ofNat c.toNat

/-- The bytes that a text is stored as. -/
def encode (t : Text) : Text := ofContent (.ofText t)

/-- The text that bytes store, if they store one. -/
def decode? (bytes : Text) : Option Text := (toContent bytes).text?

/-- The name of a file that bytes store. -/
def fileNameOf (bytes : Text) : Text := (decode? bytes).getD bytes

end IndentTex.Simulation
