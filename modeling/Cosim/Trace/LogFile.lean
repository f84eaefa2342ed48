import Cosim.Text.Utf8
import Cosim.Trace.Log

namespace Cosim.Trace.LogFile

open Cosim.Text

def text (octets : List UInt8) : List Char := Lines.unify (Utf8.decodeLossy octets)

def commits (octets : List UInt8) : Except Log.Fault (List Commit) := Log.commits (text octets)

def events (octets : List UInt8) : Except Log.Fault (List Event) := Log.events (text octets)

end Cosim.Trace.LogFile
