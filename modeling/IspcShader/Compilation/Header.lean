import IspcShader.Text.Lines

/-!
The native header: definitions that every generated source starts with, among them the accessor
macro `Get` and the constructor functions of the vector types.
-/
namespace IspcShader

structure Header where
  text : Text
  deriving DecidableEq, Repr

namespace Header

def lines (header : Header) : List Text :=
  Text.lines header.text

/-- The lines of the header that is used when no other is named. -/
def bundledLines : List String :=
  ["#ifndef FSL_ISPC_H",
   "#define FSL_ISPC_H",
   "",
   "#define uint32_t uint32",
   "#define NUM_THREADS(x, y, z)",
   "#define INIT_MAIN",
   "",
   "// Resource and group-shared accessor; declarations provide `_Get<name>` aliases.",
   "#define Get(X) _Get##X",
   "",
   "#define FSL_MAKE_VECTOR2(T) \\",
   "inline T<2> make_##T##2(T x, T y) \x7b \\",
   "    T<2> v; \\",
   "    v.x = x; \\",
   "    v.y = y; \\",
   "    return v; \\",
   "\x7d",
   "",
   "#define FSL_MAKE_VECTOR3(T) \\",
   "inline T<3> make_##T##3(T x, T y, T z) \x7b \\",
   "    T<3> v; \\",
   "    v.x = x; \\",
   "    v.y = y; \\",
   "    v.z = z; \\",
   "    return v; \\",
   "\x7d",
   "",
   "#define FSL_MAKE_VECTOR4(T) \\",
   "inline T<4> make_##T##4(T x, T y, T z, T w) \x7b \\",
   "    T<4> v; \\",
   "    v.x = x; \\",
   "    v.y = y; \\",
   "    v.z = z; \\",
   "    v.w = w; \\",
   "    return v; \\",
   "\x7d",
   "",
   "FSL_MAKE_VECTOR2(int)",
   "FSL_MAKE_VECTOR2(uint)",
   "FSL_MAKE_VECTOR2(float)",
   "FSL_MAKE_VECTOR2(bool)",
   "",
   "FSL_MAKE_VECTOR3(int)",
   "FSL_MAKE_VECTOR3(uint)",
   "FSL_MAKE_VECTOR3(float)",
   "FSL_MAKE_VECTOR3(bool)",
   "",
   "FSL_MAKE_VECTOR4(int)",
   "FSL_MAKE_VECTOR4(uint)",
   "FSL_MAKE_VECTOR4(float)",
   "FSL_MAKE_VECTOR4(bool)",
   "",
   "// Element-wise conversions between 2-wide vectors.",
   "inline float<2> make_float2(uint<2> v) \x7b",
   "    float<2> r;",
   "    r.x = (float)v.x;",
   "    r.y = (float)v.y;",
   "    return r;",
   "\x7d",
   "",
   "inline float<2> make_float2(int<2> v) \x7b",
   "    float<2> r;",
   "    r.x = (float)v.x;",
   "    r.y = (float)v.y;",
   "    return r;",
   "\x7d",
   "",
   "inline int<2> make_int2(float<2> v) \x7b",
   "    int<2> r;",
   "    r.x = (int)v.x;",
   "    r.y = (int)v.y;",
   "    return r;",
   "\x7d",
   "",
   "inline uint<2> make_uint2(float<2> v) \x7b",
   "    uint<2> r;",
   "    r.x = (uint)v.x;",
   "    r.y = (uint)v.y;",
   "    return r;",
   "\x7d",
   "",
   "inline float length(float<2> v) \x7b",
   "    return sqrt(v.x * v.x + v.y * v.y);",
   "\x7d",
   "",
   "inline float length(float<3> v) \x7b",
   "    return sqrt(v.x * v.x + v.y * v.y + v.z * v.z);",
   "\x7d",
   "",
   "inline float length(float<4> v) \x7b",
   "    return sqrt(v.x * v.x + v.y * v.y + v.z * v.z + v.w * v.w);",
   "\x7d",
   "",
   "#endif // FSL_ISPC_H"]

def bundled : Header :=
  ⟨(bundledLines.map String.toList).flatMap (· ++ "\n")⟩

end Header
end IspcShader
