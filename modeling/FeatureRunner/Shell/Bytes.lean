import FeatureRunner.Text.Utf8

/-!
This module contains byte texts. A shell works on bytes: inside of it a text has one character for
every byte, namely the one with the number of the byte. `toBytes` is how a text comes in, `ofBytes`
how it goes out; bytes that are no UTF-8 go out as replacement characters. It serves the outer
layer, which starts real commands; no result is about it.
-/

namespace FeatureRunner
namespace Shell

def ofByteList (bytes : List UInt8) : String :=
  String.ofList (bytes.map fun b => Char.ofNat b.toNat)

def ofByteArray (bytes : ByteArray) : String :=
  ofByteList bytes.toList

def byteList (s : String) : List UInt8 :=
  s.toList.map fun c => c.val.toUInt8

def byteArray (s : String) : ByteArray :=
  ⟨(byteList s).toArray⟩

def toBytes (s : String) : String :=
  ofByteList s.toUTF8.toList

def ofBytes (s : String) : String :=
  match String.fromUTF8? (byteArray s) with
  | some text => text
  | none => String.ofList (Text.decode (byteList s))

def text? (s : String) : Option String :=
  String.fromUTF8? (byteArray s)

end Shell
end FeatureRunner
