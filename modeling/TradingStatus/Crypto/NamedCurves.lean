import TradingStatus.Crypto.Curve
import TradingStatus.Powers

/-! The curves that keys are in use on, with the contents of the names that they go by. -/

namespace TradingStatus.Curve

/-- The curve over the field of a prime of 192 bits with few terms. -/
def secp192r1 : Curve where
  prime := twoTo 192 - twoTo 64 - 1
  bits := 192
  factor := twoTo 192 - twoTo 64 - 4
  baseX := 0x188da80eb03090f67cbf20eb43a18800f4ff0afd82ff1012
  baseY := 0x7192b95ffc8da78631011ed6b24cdd573f977a11e794811
  order := 0xffffffffffffffffffffffff99def836146bc9b1b4d22831

/-- The curve over the field of a prime of 224 bits with few terms. -/
def secp224r1 : Curve where
  prime := twoTo 224 - twoTo 96 + 1
  bits := 224
  factor := twoTo 224 - twoTo 96 - 2
  baseX := 0xb70e0cbd6bb4bf7f321390b94a03c1d356c21122343280d6115c1d21
  baseY := 0xbd376388b5f723fb4c22dfe6cd4375a05a07476444d5819985007e34
  order := 0xffffffffffffffffffffffffffff16a2e0b8f03e13dd29455c5c2a3d

/-- The curve over the field of a prime of 256 bits with few terms. -/
def secp256r1 : Curve where
  prime := twoTo 256 - twoTo 224 + twoTo 192 + twoTo 96 - 1
  bits := 256
  factor := twoTo 256 - twoTo 224 + twoTo 192 + twoTo 96 - 4
  baseX := 0x6b17d1f2e12c4247f8bce6e563a440f277037d812deb33a0f4a13945d898c296
  baseY := 0x4fe342e2fe1a7f9b8ee7eb4a7c0f9e162bce33576b315ececbb6406837bf51f5
  order := 0xffffffff00000000ffffffffffffffffbce6faada7179e84f3b9cac2fc632551

/-- The curve over the field of a prime of 384 bits with few terms. -/
def secp384r1 : Curve where
  prime := twoTo 384 - twoTo 128 - twoTo 96 + twoTo 32 - 1
  bits := 384
  factor := twoTo 384 - twoTo 128 - twoTo 96 + twoTo 32 - 4
  baseX :=
    0xaa87ca22be8b05378eb1c71ef320ad746e1d3b628ba79b9859f741e082542a385502f25dbf55296c3a545e3872760ab7
  baseY :=
    0x3617de4a96262c6f5d9e98bf9292dc29f8f41dbd289a147ce9da3113b5f0b8c00a60b1ce1d7e819d7a431d7c90ea0e5f
  order :=
    0xffffffffffffffffffffffffffffffffffffffffffffffffc7634d81f4372ddf581a0db248b0a77aecec196accc52973

/-- The curve over the field of a prime of 521 bits with few terms. -/
def secp521r1 : Curve where
  prime := twoTo 521 - 1
  bits := 521
  factor := twoTo 521 - 4
  baseX :=
    0xc6858e06b70404e9cd9e3ecb662395b4429c648139053fb521f828af606b4d3dbaa14b5e77efe75928fe1dc127a2ffa8de3348b3c1856a429bf97e7e31c2e5bd66
  baseY :=
    0x11839296a789a3bc0045c8a5fb42c7d1bd998f54449579b446817afbd17273e662c97ee72995ef42640c550b9013fad0761353c7086a272c24088be94769fd16650
  order :=
    0x1fffffffffffffffffffffffffffffffffffffffffffffffffffffffffffffffffa51868783bf2f966b7fcc0148f709a5d03bb5c9b8899c47aebb6fb71e91386409

/-- The curve of 256 bits whose factor is zero. -/
def secp256k1 : Curve where
  prime := twoTo 256 - twoTo 32 - 977
  bits := 256
  factor := 0
  baseX := 0x79be667ef9dcbbac55a06295ce870b07029bfcdb2dce28d959f2815b16f81798
  baseY := 0x483ada7726a3c4655da4fbfc0e1108a8fd17b448a68554199c47d08ffb10d4b8
  order := 0xfffffffffffffffffffffffffffffffebaaedce6af48a03bbfd25e8cd0364141

/-- The curve of 256 bits whose numbers were drawn at random. -/
def brainpoolP256r1 : Curve where
  prime := 0xa9fb57dba1eea9bc3e660a909d838d726e3bf623d52620282013481d1f6e5377
  bits := 256
  factor := 0x7d5a0975fc2c3057eef67530417affe7fb8055c126dc5c6ce94a4b44f330b5d9
  baseX := 0x8bd2aeb9cb7e57cb2c4b482ffc81b7afb9de27e1e3bd23c23a4453bd9ace3262
  baseY := 0x547ef835c3dac4fd97f8461a14611dc9c27745132ded8e545c1d54c72f046997
  order := 0xa9fb57dba1eea9bc3e660a909d838d718c397aa3b561a6f7901e0e82974856a7

/-- The curve of 384 bits whose numbers were drawn at random. -/
def brainpoolP384r1 : Curve where
  prime :=
    0x8cb91e82a3386d280f5d6f7e50e641df152f7109ed5456b412b1da197fb71123acd3a729901d1a71874700133107ec53
  bits := 384
  factor :=
    0x7bc382c63d8c150c3c72080ace05afa0c2bea28e4fb22787139165efba91f90f8aa5814a503ad4eb04a8c7dd22ce2826
  baseX :=
    0x1d1c64f068cf45ffa2a63a81b7c13f6b8847a3e77ef14fe3db7fcafe0cbd10e8e826e03436d646aaef87b2e247d4af1e
  baseY :=
    0x8abe1d7520f9c2a45cb1eb8e95cfd55262b70b29feec5864e19c054ff99129280e4646217791811142820341263c5315
  order :=
    0x8cb91e82a3386d280f5d6f7e50e641df152f7109ed5456b31f166e6cac0425a7cf3ab6af6b7fc3103b883202e9046565

/-- The curve of 512 bits whose numbers were drawn at random. -/
def brainpoolP512r1 : Curve where
  prime :=
    0xaadd9db8dbe9c48b3fd4e6ae33c9fc07cb308db3b3c9d20ed6639cca703308717d4d9b009bc66842aecda12ae6a380e62881ff2f2d82c68528aa6056583a48f3
  bits := 512
  factor :=
    0x7830a3318b603b89e2327145ac234cc594cbdd8d3df91610a83441caea9863bc2ded5d5aa8253aa10a2ef1c98b9ac8b57f1117a72bf2c7b9e7c1ac4d77fc94ca
  baseX :=
    0x81aee4bdd82ed9645a21322e9c4c6a9385ed9f70b5d916c1b43b62eef4d0098eff3b1f78e2d0d48d50d1687b93b97d5f7c6d5047406a5e688b352209bcb9f822
  baseY :=
    0x7dde385d566332ecc0eabfa9cf7822fdf209f70024a57b1aa000c55b881f8111b2dcde494a5f485e5bca4bd88a2763aed1ca2b2fa8f0540678cd1e0f3ad80892
  order :=
    0xaadd9db8dbe9c48b3fd4e6ae33c9fc07cb308db3b3c9d20ed6639cca70330870553e5c414ca92619418661197fac10471db1d381085ddaddb58796829ca90069

/-- The curves by the contents of their names. -/
def named : List (List UInt8 × Curve) := [
  ([0x2a, 0x86, 0x48, 0xce, 0x3d, 0x03, 0x01, 0x01], secp192r1),
  ([0x2b, 0x81, 0x04, 0x00, 0x21], secp224r1),
  ([0x2a, 0x86, 0x48, 0xce, 0x3d, 0x03, 0x01, 0x07], secp256r1),
  ([0x2b, 0x81, 0x04, 0x00, 0x22], secp384r1),
  ([0x2b, 0x81, 0x04, 0x00, 0x23], secp521r1),
  ([0x2b, 0x81, 0x04, 0x00, 0x0a], secp256k1),
  ([0x2b, 0x24, 0x03, 0x03, 0x02, 0x08, 0x01, 0x01, 0x07], brainpoolP256r1),
  ([0x2b, 0x24, 0x03, 0x03, 0x02, 0x08, 0x01, 0x01, 0x0b], brainpoolP384r1),
  ([0x2b, 0x24, 0x03, 0x03, 0x02, 0x08, 0x01, 0x01, 0x0d], brainpoolP512r1)]

end TradingStatus.Curve
