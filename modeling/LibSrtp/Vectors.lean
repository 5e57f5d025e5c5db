import LibSrtp.PacketStream

/-!
# Known answers

AES-CM and HMAC-SHA1 on the master key of the library's own tests and on packets that are theirs but
for the sequence number, the SSRC or the index: what the crates answer on the packets of the examples
in this development.
-/

namespace LibSrtp.Vectors

def masterKey : Bytes :=
  [0xe1, 0xf9, 0x7a, 0x0d, 0x3e, 0x01, 0x8b, 0xe0, 0xd6, 0x4f, 0xa3, 0x2c, 0x06, 0xde, 0x41, 0x39]

def masterSalt : Bytes :=
  [0x0e, 0xc6, 0x75, 0xad, 0x49, 0x8a, 0xfe, 0xeb, 0xb6, 0x96, 0x0b, 0x3a, 0xab, 0xe6]

/-- A second master key, used with the same salt. -/
def otherKey : Bytes :=
  [0x00, 0x01, 0x02, 0x03, 0x04, 0x05, 0x06, 0x07, 0x08, 0x09, 0x0a, 0x0b, 0x0c, 0x0d, 0x0e, 0x0f]

/-- The first block of a key derivation from `masterSalt`, by label. -/
def kdfInput (label : UInt8) : Bytes :=
  Bytes.xorStream (Bytes.field 7 [label]) (masterSalt ++ [0, 0])

/-! ## Session keys -/

def rtpKey : Bytes :=
  [0xc6, 0x1e, 0x7a, 0x93, 0x74, 0x4f, 0x39, 0xee, 0x10, 0x73, 0x4a, 0xfe, 0x3f, 0xf7, 0xa0, 0x87]

def rtpAuthKey : Bytes :=
  [0xce, 0xbe, 0x32, 0x1f, 0x6f, 0xf7, 0x71, 0x6b, 0x6f, 0xd4, 0xab, 0x49, 0xaf, 0x25, 0x6a, 0x15,
   0x6d, 0x38, 0xba, 0xa4]

def rtpSalt : Bytes :=
  [0x30, 0xcb, 0xbc, 0x08, 0x86, 0x3d, 0x8c, 0x85, 0xd4, 0x9d, 0xb3, 0x4a, 0x9a, 0xe1]

def rtcpKey : Bytes :=
  [0x4c, 0x1a, 0xa4, 0x5a, 0x81, 0xf7, 0x3d, 0x61, 0xc8, 0x00, 0xbb, 0xb0, 0x0f, 0xbb, 0x1e, 0xaa]

def rtcpAuthKey : Bytes :=
  [0x8d, 0x54, 0x53, 0x4f, 0xeb, 0x49, 0xae, 0x8e, 0x79, 0x93, 0xa6, 0xbd, 0x0b, 0x84, 0x4f, 0xc3,
   0x23, 0xa9, 0x3d, 0xfd]

def rtcpSalt : Bytes :=
  [0x95, 0x81, 0xc7, 0xad, 0x87, 0xb3, 0xe5, 0x30, 0xbf, 0x3e, 0x44, 0x54, 0xa8, 0xb3]

def otherRtpKey : Bytes :=
  [0xb8, 0x61, 0xb8, 0x8c, 0x2c, 0x1a, 0x8f, 0x67, 0xe5, 0x3a, 0x8f, 0x04, 0x1f, 0x8b, 0xca, 0x3a]

def otherRtpAuthKey : Bytes :=
  [0x7c, 0xf2, 0x9a, 0xe4, 0x54, 0x33, 0x04, 0x3d, 0xc8, 0x65, 0x5e, 0x17, 0xff, 0xff, 0x7d, 0x76,
   0x90, 0x3c, 0xf1, 0x2a]

def otherRtpSalt : Bytes :=
  [0x1a, 0xd7, 0x27, 0x4c, 0x3e, 0xb9, 0x85, 0x26, 0x28, 0xcd, 0x29, 0x96, 0x28, 0x51]

def otherRtcpKey : Bytes :=
  [0xcf, 0x68, 0x7c, 0x2e, 0xc8, 0x37, 0xd8, 0x10, 0x38, 0xc4, 0x3c, 0xf1, 0xe0, 0xf3, 0xab, 0x55]

def otherRtcpAuthKey : Bytes :=
  [0x63, 0x55, 0xf1, 0x4b, 0x83, 0x49, 0x82, 0x8b, 0xbd, 0xbd, 0xf5, 0x2f, 0x5b, 0x1f, 0xb6, 0xdf,
   0xf4, 0x3a, 0xa3, 0x3c]

def otherRtcpSalt : Bytes :=
  [0x35, 0x54, 0x1c, 0x8e, 0xc8, 0x22, 0x0d, 0xc5, 0x07, 0x22, 0x56, 0x96, 0xc2, 0x6e]

/-! ## Configurations and packets -/

def key (mki : Mki) (lifetime : KeysLifetime) : MasterKey := ⟨masterKey, masterSalt, mki, lifetime⟩

def config (keys : List MasterKey) : StreamConfig :=
  .new keys .aes128CmHmacSha180 .aes128CmHmacSha180

def rtpHeader (ssrc : UInt32) (seqNum : UInt16) : Bytes :=
  [0x80, 0x0f] ++ Bytes.toBe 2 seqNum.toNat ++ [0xde, 0xca, 0xfb, 0xad] ++ Bytes.toBe 4 ssrc.toNat

def rtcpHeader (ssrc : UInt32) : Bytes := [0x81, 0xc8, 0x00, 0x0b] ++ Bytes.toBe 4 ssrc.toNat

def payload : Bytes := List.replicate 16 0xab

def rtpPacket (ssrc : UInt32) (seqNum : UInt16) : Bytes := rtpHeader ssrc seqNum ++ payload

def rtcpPacket (ssrc : UInt32) : Bytes := rtcpHeader ssrc ++ payload

/-! ## The crates -/

/-- What the crates answer on a packet: the counter block of its IV, the keystream from there, and the
code of the encrypted packet. -/
structure Answer where
  block : Bytes
  keystream : Bytes
  mac : Bytes

def Answer.cipher (a : Answer) : Bytes := List.zipWith (· ^^^ ·) a.keystream payload

/-- By SSRC, ROC and sequence number. -/
def rtpAnswers : List ((UInt32 × UInt32 × UInt16) × Answer) :=
  [((0xcafebabe, 0, 1),
    { block := [0x30, 0xcb, 0xbc, 0x08, 0x4c, 0xc3, 0x36, 0x3b, 0xd4, 0x9d, 0xb3, 0x4a, 0x9a, 0xe0,
        0x00, 0x00]
      keystream := [0xab, 0x6b, 0xb6, 0x68, 0x87, 0x44, 0xae, 0x38, 0xd3, 0xd3, 0x44, 0xf9, 0xc3,
        0x45, 0x19, 0xe5]
      mac := [0xdc, 0x80, 0xeb, 0x88, 0xe0, 0x79, 0x77, 0xf6, 0xb7, 0x64, 0x15, 0x41, 0x6b, 0xf8,
        0x5a, 0x37, 0x8f, 0x36, 0x06, 0x2b] }),
   ((0xcafebabe, 0, 2),
    { block := [0x30, 0xcb, 0xbc, 0x08, 0x4c, 0xc3, 0x36, 0x3b, 0xd4, 0x9d, 0xb3, 0x4a, 0x9a, 0xe3,
        0x00, 0x00]
      keystream := [0xa3, 0xad, 0x9b, 0x1e, 0x70, 0xab, 0x9e, 0xe0, 0x8f, 0x41, 0x3c, 0xef, 0xa8,
        0x44, 0x34, 0xa6]
      mac := [0xdc, 0x8d, 0xf3, 0x36, 0x72, 0x58, 0x05, 0xbb, 0x1f, 0x53, 0x1f, 0x1d, 0xd7, 0x02,
        0x94, 0xd9, 0x32, 0x37, 0xba, 0x1e] }),
   ((0xcafebabe, 0, 3),
    { block := [0x30, 0xcb, 0xbc, 0x08, 0x4c, 0xc3, 0x36, 0x3b, 0xd4, 0x9d, 0xb3, 0x4a, 0x9a, 0xe2,
        0x00, 0x00]
      keystream := [0xc3, 0x11, 0x29, 0xc1, 0x7b, 0x47, 0xff, 0x7c, 0x26, 0x60, 0x5d, 0x75, 0x3a,
        0xdc, 0xb3, 0x69]
      mac := [0x8e, 0x73, 0x83, 0xf8, 0x18, 0x37, 0xd8, 0x1d, 0xbf, 0x20, 0xe6, 0x86, 0x1c, 0x00,
        0x57, 0x80, 0xf4, 0x3f, 0x9f, 0xa9] }),
   ((0xcafebabe, 0, 7),
    { block := [0x30, 0xcb, 0xbc, 0x08, 0x4c, 0xc3, 0x36, 0x3b, 0xd4, 0x9d, 0xb3, 0x4a, 0x9a, 0xe6,
        0x00, 0x00]
      keystream := [0x6c, 0x94, 0xdf, 0xac, 0x65, 0x78, 0x0e, 0x2e, 0x59, 0xf8, 0xfc, 0x43, 0xeb,
        0x96, 0x49, 0x1c]
      mac := [0x5d, 0x81, 0x16, 0x0d, 0x42, 0xa9, 0xbb, 0xa6, 0x07, 0x5c, 0x22, 0x30, 0x96, 0xd0,
        0xfc, 0xc5, 0x23, 0x93, 0xfd, 0x74] }),
   ((0xcafebabe, 0, 8),
    { block := [0x30, 0xcb, 0xbc, 0x08, 0x4c, 0xc3, 0x36, 0x3b, 0xd4, 0x9d, 0xb3, 0x4a, 0x9a, 0xe9,
        0x00, 0x00]
      keystream := [0x80, 0x28, 0xd0, 0x2a, 0x04, 0xa9, 0xf3, 0x56, 0xb5, 0x55, 0x6e, 0x55, 0x87,
        0xd8, 0x54, 0x8d]
      mac := [0x17, 0xd4, 0x05, 0xc5, 0x40, 0x38, 0x10, 0x80, 0xfb, 0xde, 0xe6, 0x72, 0xf9, 0x37,
        0x3b, 0x95, 0x27, 0x63, 0xe8, 0x52] }),
   ((0xcafebabe, 0, 10),
    { block := [0x30, 0xcb, 0xbc, 0x08, 0x4c, 0xc3, 0x36, 0x3b, 0xd4, 0x9d, 0xb3, 0x4a, 0x9a, 0xeb,
        0x00, 0x00]
      keystream := [0x40, 0x0e, 0xfc, 0x6f, 0x05, 0xea, 0x3c, 0xba, 0x13, 0x24, 0xfd, 0x7e, 0x78,
        0x04, 0xfb, 0x17]
      mac := [0x7f, 0x80, 0xb5, 0xde, 0xb6, 0xb3, 0x0d, 0xd1, 0xc9, 0xa3, 0xfd, 0xcd, 0x05, 0xed,
        0x86, 0xb9, 0xb6, 0x90, 0xb7, 0x52] }),
   ((0xdeadbeef, 0, 1),
    { block := [0x30, 0xcb, 0xbc, 0x08, 0x58, 0x90, 0x32, 0x6a, 0xd4, 0x9d, 0xb3, 0x4a, 0x9a, 0xe0,
        0x00, 0x00]
      keystream := [0x0a, 0xad, 0xf9, 0xa1, 0x80, 0x0c, 0x04, 0x6c, 0x50, 0xb2, 0x40, 0xbd, 0xc3,
        0x13, 0x82, 0x7c]
      mac := [0xf4, 0x1a, 0x34, 0x44, 0xea, 0x50, 0xfd, 0xd9, 0xc1, 0x00, 0xf1, 0x71, 0x61, 0xe0,
        0x43, 0x66, 0xc8, 0x39, 0x99, 0xe5] }),
   ((0xcafebabe, 5, 1),
    { block := [0x30, 0xcb, 0xbc, 0x08, 0x4c, 0xc3, 0x36, 0x3b, 0xd4, 0x9d, 0xb3, 0x4f, 0x9a, 0xe0,
        0x00, 0x00]
      keystream := [0x65, 0x76, 0x13, 0x77, 0x7c, 0xca, 0xd4, 0xc1, 0x33, 0x4c, 0xe5, 0xbd, 0x5f,
        0x43, 0x26, 0xe4]
      mac := [0x07, 0xc5, 0xb3, 0x24, 0x63, 0xd7, 0x2d, 0xf5, 0x1f, 0x4a, 0x94, 0xb9, 0xf2, 0xa9,
        0x2b, 0xa1, 0x80, 0x6e, 0xc8, 0xd2] }),
   ((0xcafebabe, 5, 2),
    { block := [0x30, 0xcb, 0xbc, 0x08, 0x4c, 0xc3, 0x36, 0x3b, 0xd4, 0x9d, 0xb3, 0x4f, 0x9a, 0xe3,
        0x00, 0x00]
      keystream := [0xf1, 0x54, 0x02, 0xa2, 0x62, 0x9c, 0x07, 0x9e, 0x2a, 0xc2, 0x7a, 0xab, 0x3b,
        0xa8, 0x17, 0x63]
      mac := [0xcf, 0x68, 0xac, 0x2d, 0x37, 0xc4, 0x30, 0x11, 0xcc, 0x9a, 0x38, 0xf4, 0x67, 0xe5,
        0x2c, 0xc0, 0x91, 0xf3, 0xbd, 0x6d] }),
   ((0xcafebabe, 5, 3),
    { block := [0x30, 0xcb, 0xbc, 0x08, 0x4c, 0xc3, 0x36, 0x3b, 0xd4, 0x9d, 0xb3, 0x4f, 0x9a, 0xe2,
        0x00, 0x00]
      keystream := [0x2c, 0x89, 0x71, 0x13, 0xaa, 0x95, 0x9e, 0xc1, 0x3f, 0xe4, 0x13, 0x31, 0xd1,
        0x1e, 0xa5, 0xda]
      mac := [0x9f, 0xa1, 0x75, 0x4d, 0x6b, 0x33, 0x1d, 0xee, 0x82, 0x36, 0xcd, 0xfb, 0xdf, 0x05,
        0xfe, 0x28, 0x8e, 0x19, 0xcb, 0x95] })]

/-- By SSRC and index. -/
def rtcpAnswers : List ((UInt32 × Nat) × Answer) :=
  [((0xcafebabe, 0),
    { block := [0x95, 0x81, 0xc7, 0xad, 0x4d, 0x4d, 0x5f, 0x8e, 0xbf, 0x3e, 0x44, 0x54, 0xa8, 0xb3,
        0x00, 0x00]
      keystream := [0x1a, 0x37, 0x8a, 0x31, 0xa3, 0xc0, 0xc7, 0xd1, 0x4d, 0xb6, 0x25, 0xa0, 0x55,
        0x1f, 0x15, 0x94]
      mac := [0x56, 0x31, 0xd6, 0xcf, 0xc9, 0x06, 0xcd, 0xb3, 0x0f, 0x41, 0x15, 0x43, 0xd3, 0x30,
        0x25, 0x69, 0x44, 0xc3, 0xb1, 0x0a] }),
   ((0xcafebabe, 1),
    { block := [0x95, 0x81, 0xc7, 0xad, 0x4d, 0x4d, 0x5f, 0x8e, 0xbf, 0x3e, 0x44, 0x54, 0xa8, 0xb2,
        0x00, 0x00]
      keystream := [0xda, 0x83, 0xa8, 0xf0, 0x4f, 0x2c, 0x12, 0x16, 0x15, 0x53, 0x3b, 0xea, 0x52,
        0xdc, 0x0e, 0x03]
      mac := [0x99, 0x3e, 0x08, 0xcd, 0x54, 0xd6, 0xc1, 0x23, 0x07, 0x98, 0x87, 0xe9, 0xfc, 0x45,
        0x2b, 0x31, 0xd5, 0x39, 0x3f, 0xa4] }),
   ((0xcafebabe, 2 ^ 29),
    { block := [0x95, 0x81, 0xc7, 0xad, 0x4d, 0x4d, 0x5f, 0x8e, 0xbf, 0x3e, 0x64, 0x54, 0xa8, 0xb3,
        0x00, 0x00]
      keystream := [0x23, 0x21, 0x57, 0xae, 0x3a, 0x2b, 0x78, 0x87, 0x66, 0x20, 0x0d, 0x2f, 0xd4,
        0xf0, 0x6a, 0x4d]
      mac := [0xb7, 0x14, 0xc7, 0x9c, 0x51, 0x07, 0xaa, 0x89, 0xa2, 0x72, 0x54, 0xf8, 0x12, 0xc1,
        0x29, 0x99, 0xb7, 0x0b, 0x41, 0xc1] }),
   ((0xcafebabe, 2 ^ 30),
    { block := [0x95, 0x81, 0xc7, 0xad, 0x4d, 0x4d, 0x5f, 0x8e, 0xbf, 0x3e, 0x04, 0x54, 0xa8, 0xb3,
        0x00, 0x00]
      keystream := [0xc2, 0x71, 0xa7, 0x1f, 0xac, 0x9c, 0x9e, 0x74, 0x5c, 0xd8, 0x72, 0xd5, 0x42,
        0xb6, 0x72, 0x62]
      mac := [0x6e, 0xbe, 0xec, 0x56, 0xe3, 0x27, 0x12, 0xce, 0x08, 0x31, 0x69, 0xbf, 0x61, 0xee,
        0x97, 0xfa, 0x35, 0xa2, 0xda, 0x2c] }),
   ((0xcafebabe, 2 ^ 30 + 1),
    { block := [0x95, 0x81, 0xc7, 0xad, 0x4d, 0x4d, 0x5f, 0x8e, 0xbf, 0x3e, 0x04, 0x54, 0xa8, 0xb2,
        0x00, 0x00]
      keystream := [0x38, 0xa1, 0x7f, 0xe1, 0xf0, 0x2f, 0xeb, 0x1d, 0x59, 0xdd, 0xf4, 0xe4, 0xb9,
        0x5e, 0x06, 0x3d]
      mac := [0x9c, 0x12, 0x35, 0x29, 0xc8, 0x90, 0x25, 0xec, 0x50, 0xd7, 0x56, 0x34, 0x54, 0x39,
        0x98, 0xb7, 0x72, 0x92, 0x6d, 0xdc] }),
   ((0xcafebabe, 2 ^ 30 + 2),
    { block := [0x95, 0x81, 0xc7, 0xad, 0x4d, 0x4d, 0x5f, 0x8e, 0xbf, 0x3e, 0x04, 0x54, 0xa8, 0xb1,
        0x00, 0x00]
      keystream := [0x3c, 0x57, 0xdb, 0xf6, 0x51, 0x0a, 0x7c, 0x9f, 0xb6, 0xbe, 0xbe, 0xeb, 0xd7,
        0x65, 0x45, 0xf7]
      mac := [0xab, 0x93, 0x61, 0x67, 0x0c, 0x01, 0x56, 0x06, 0xb4, 0xef, 0xd4, 0x27, 0x29, 0x29,
        0xf9, 0x8b, 0x65, 0x85, 0xdc, 0x1f] }),
   ((0xdeadbeef, 0),
    { block := [0x95, 0x81, 0xc7, 0xad, 0x59, 0x1e, 0x5b, 0xdf, 0xbf, 0x3e, 0x44, 0x54, 0xa8, 0xb3,
        0x00, 0x00]
      keystream := [0x63, 0xc9, 0x2d, 0x13, 0x44, 0x6e, 0xa6, 0x4d, 0x80, 0xb0, 0xf1, 0xf6, 0x8b,
        0x8d, 0xc4, 0x39]
      mac := [0xdd, 0xae, 0xcb, 0x4c, 0xde, 0x9b, 0x0d, 0xeb, 0xd3, 0x1e, 0x70, 0x95, 0x7d, 0xd2,
        0xed, 0xae, 0x83, 0x96, 0x52, 0x43] })]

def rtpAnswer (ssrc roc : UInt32) (seqNum : UInt16) : Answer :=
  (rtpAnswers.lookup (ssrc, roc, seqNum)).getD ⟨[], [], []⟩

def rtcpAnswer (ssrc : UInt32) (index : Nat) : Answer :=
  (rtcpAnswers.lookup (ssrc, index)).getD ⟨[], [], []⟩

/-- The RTP packet protected under a ROC. -/
def srtpPacketUnder (roc ssrc : UInt32) (seqNum : UInt16) : Bytes :=
  rtpHeader ssrc seqNum ++ (rtpAnswer ssrc roc seqNum).cipher ++ (rtpAnswer ssrc roc seqNum).mac.take 10

/-- The RTP packet protected under the ROC 0. -/
def srtpPacket (ssrc : UInt32) (seqNum : UInt16) : Bytes := srtpPacketUnder 0 ssrc seqNum

/-- The RTCP packet as it is authenticated under this index, encrypted. -/
def srtcpBody (ssrc : UInt32) (index : Nat) : Bytes :=
  rtcpHeader ssrc ++ (rtcpAnswer ssrc index).cipher ++ Bytes.toBe 4 (index + 2 ^ 31)

/-- The RTCP packet protected under an index. -/
def srtcpPacket (ssrc : UInt32) (index : Nat) : Bytes :=
  srtcpBody ssrc index ++ (rtcpAnswer ssrc index).mac.take 10

/-- Keys and counter blocks, and the keystreams from there. -/
def keystreams : List ((Bytes × Bytes) × Bytes) :=
  [((masterKey, kdfInput 0), rtpKey),
   ((masterKey, kdfInput 1), rtpAuthKey),
   ((masterKey, kdfInput 2), rtpSalt),
   ((masterKey, kdfInput 3), rtcpKey),
   ((masterKey, kdfInput 4), rtcpAuthKey),
   ((masterKey, kdfInput 5), rtcpSalt),
   ((otherKey, kdfInput 0), otherRtpKey),
   ((otherKey, kdfInput 1), otherRtpAuthKey),
   ((otherKey, kdfInput 2), otherRtpSalt),
   ((otherKey, kdfInput 3), otherRtcpKey),
   ((otherKey, kdfInput 4), otherRtcpAuthKey),
   ((otherKey, kdfInput 5), otherRtcpSalt)] ++
  rtpAnswers.map (fun (_, a) => ((rtpKey, a.block), a.keystream)) ++
  rtcpAnswers.map (fun (_, a) => ((rtcpKey, a.block), a.keystream))

/-- Keys and messages, and their authentication codes. -/
def macs : List ((Bytes × Bytes) × Bytes) :=
  rtpAnswers.map (fun ((ssrc, roc, seqNum), a) =>
    ((rtpAuthKey, rtpHeader ssrc seqNum ++ a.cipher ++ Bytes.toBe 4 roc.toNat), a.mac)) ++
  rtcpAnswers.map (fun ((ssrc, index), a) =>
    ((rtcpAuthKey, rtcpHeader ssrc ++ a.cipher ++ Bytes.toBe 4 (index + 2 ^ 31)), a.mac))

/-- The crates, as far as the tables go. -/
@[reducible] def crates : Crates := .tabulated keystreams macs

theorem lawful : @LawfulCrates crates := Crates.lawful_tabulated keystreams macs

theorem strict : @StrictCrates crates := Crates.strict_tabulated keystreams macs

/-! ## AES-GCM

The same master key with a salt of twelve bytes, and the RTCP packet encrypted under the index 0. -/

def gcmMasterSalt : Bytes := masterSalt.take 12

def gcmKdfInput (label : UInt8) : Bytes :=
  Bytes.xorStream (Bytes.field 7 [label]) (gcmMasterSalt ++ [0, 0, 0, 0])

def gcmRtcpKey : Bytes :=
  [0x8b, 0xd2, 0xcd, 0xf1, 0xfc, 0x9d, 0xb3, 0x02, 0x55, 0x4e, 0x0f, 0xc9, 0xa5, 0xcc, 0xb4, 0xa6]

def gcmKeystreams : List ((Bytes × Bytes) × Bytes) :=
  [((masterKey, gcmKdfInput 0),
     [0x23, 0x8c, 0x88, 0x2f, 0x36, 0xf0, 0x00, 0x30, 0x15, 0x73, 0xe6, 0x93, 0x83, 0x50, 0x2d,
      0x9d]),
   ((masterKey, gcmKdfInput 2),
     [0xf2, 0xfe, 0xe0, 0x40, 0x70, 0xfc, 0x3f, 0x65, 0xd7, 0x06, 0xe2, 0xe4, 0x9a, 0x02]),
   ((masterKey, gcmKdfInput 3), gcmRtcpKey),
   ((masterKey, gcmKdfInput 5),
     [0x9b, 0xb7, 0x41, 0x13, 0x9a, 0x52, 0x07, 0xf6, 0x1f, 0x89, 0x8d, 0xb2, 0xde, 0xe7])]

/-- The header and the index are authenticated with the payload. -/
def gcmVector : GcmVector where
  key := gcmRtcpKey
  nonce := ⟨[0x9b, 0xb7, 0x8b, 0xed, 0x20, 0xec, 0x07, 0xf6, 0x1f, 0x89, 0x8d, 0xb2], rfl⟩
  ad := rtcpHeader 0xcafebabe ++ [0x80, 0, 0, 0]
  payload := payload
  cipher := [0x2d, 0xbb, 0x87, 0x87, 0xef, 0x95, 0xb9, 0x60, 0xd0, 0xaa, 0x76, 0x75, 0x3e, 0xf7,
    0xae, 0x64]
  tag := ⟨[0x06, 0x7b, 0xe9, 0x11, 0xb9, 0x31, 0x8a, 0xa3, 0x25, 0x96, 0x58, 0xfe, 0x73, 0x23, 0x80,
    0xa8], rfl⟩

@[reducible] def gcmCrates : Crates := .tabulatedGcm gcmKeystreams gcmVector

theorem gcm_lawful : @LawfulCrates gcmCrates := Crates.lawful_tabulatedGcm gcmKeystreams gcmVector

theorem gcm_strict : @StrictCrates gcmCrates := Crates.strict_tabulatedGcm gcmKeystreams gcmVector

/-- The protected RTCP packet, with its E flag or without. -/
def gcmSrtcpPacket (eFlag : Bool) : Bytes :=
  rtcpHeader 0xcafebabe ++ gcmVector.cipher ++ gcmVector.tag.1 ++ [if eFlag then 0x80 else 0, 0, 0, 0]

def gcmConfig : StreamConfig :=
  .new [⟨masterKey, gcmMasterSalt, none, .default⟩] .aeadAes128Gcm .aeadAes128Gcm

/-! ## Streams and operations -/

attribute [local instance] crates

open Exec

/-- A sender and a receiver for the SSRC of the packets. -/
def sendStream (config : StreamConfig)
    (h : (SendStream.new 0xcafebabe config none).isOk = true) : SendStream :=
  get (SendStream.new 0xcafebabe config none) h

def recvStream (config : StreamConfig)
    (h : (RecvStream.new 0xcafebabe config none).isOk = true) : RecvStream :=
  get (RecvStream.new 0xcafebabe config none) h

theorem sendStream_eq (config : StreamConfig) (h) :
    StreamInterface.new 0xcafebabe config none = .ok (sendStream config h) := eq_ok_get h

theorem recvStream_eq (config : StreamConfig) (h) :
    StreamInterface.new 0xcafebabe config none = .ok (recvStream config h) := eq_ok_get h

/-- A sender and a receiver with one key and no MKI. -/
def plainSender : SendStream := sendStream (config [key none .default]) (by decide +kernel)

def plainReceiver : RecvStream := recvStream (config [key none .default]) (by decide +kernel)

theorem rtpPacket_isOk (ssrc : UInt32) (seqNum : UInt16) :
    (RtpHeader.new (rtpPacket ssrc seqNum)).isOk = true := rfl

/-- The protection of the RTP packet with this sequence number. -/
def protectCall (seqNum : UInt16) (mki : Mki)
    (h : (RtpHeader.new (rtpPacket 0xcafebabe seqNum)).isOk = true) : SendCall :=
  .rtpProtect (get _ h) (rtpPacket 0xcafebabe seqNum) mki (eq_ok_get h)

/-- The protection of the RTCP packet. -/
def protectRtcpCall (mki : Mki) : SendCall :=
  .rtcpProtect ⟨0xcafebabe⟩ (rtcpPacket 0xcafebabe) mki (by decide)

/-- The delivery of the protected packets. -/
def unprotectCall (seqNum : UInt16)
    (h : (RtpHeader.new (srtpPacket 0xcafebabe seqNum)).isOk = true) : RecvCall :=
  .rtpUnprotect (get _ h) (srtpPacket 0xcafebabe seqNum) (eq_ok_get h)

def unprotectRtcpCall (index : Nat)
    (h : (RtcpHeader.new (srtcpPacket 0xcafebabe index)).isOk = true) : RecvCall :=
  .rtcpUnprotect (get _ h) (srtcpPacket 0xcafebabe index) (eq_ok_get h)

end LibSrtp.Vectors
