import TableClient.Text.Runs
/-! The combining marks: the characters of the general category Mark. -/
namespace TableClient.Text

namespace Mark

def read? : List Char → Option Bool
  | ['+'] => some true
  | ['-'] => some false
  | _ => none

def lines : List String := [
  "0:- 300:+ 370:- 483:+ 48a:- 591:+ 5be:- 5bf:+ 5c0:- 5c1:+ 5c3:- 5c4:+ 5c6:- 5c7:+ 5d0:- 610:+",
  "61b:- 64b:+ 660:- 670:+ 671:- 6d6:+ 6dd:- 6df:+ 6e5:- 6e7:+ 6e9:- 6ea:+ 6ee:- 711:+ 712:-",
  "730:+ 74d:- 7a6:+ 7b1:- 7eb:+ 7f4:- 7fd:+ 7fe:- 816:+ 81a:- 81b:+ 824:- 825:+ 828:- 829:+",
  "830:- 859:+ 85e:- 897:+ 8a0:- 8ca:+ 8e2:- 8e3:+ 904:- 93a:+ 93d:- 93e:+ 950:- 951:+ 958:-",
  "962:+ 964:- 981:+ 985:- 9bc:+ 9bd:- 9be:+ 9ce:- 9d7:+ 9dc:- 9e2:+ 9e6:- 9fe:+ a05:- a3c:+",
  "a59:- a70:+ a72:- a75:+ a76:- a81:+ a85:- abc:+ abd:- abe:+ ad0:- ae2:+ ae6:- afa:+ b05:-",
  "b3c:+ b3d:- b3e:+ b5c:- b62:+ b66:- b82:+ b83:- bbe:+ bd0:- bd7:+ be6:- c00:+ c05:- c3c:+",
  "c3d:- c3e:+ c58:- c62:+ c66:- c81:+ c84:- cbc:+ cbd:- cbe:+ cdc:- ce2:+ ce6:- cf3:+ d04:-",
  "d3b:+ d3d:- d3e:+ d4e:- d57:+ d58:- d62:+ d66:- d81:+ d85:- dca:+ de6:- df2:+ df4:- e31:+",
  "e32:- e34:+ e3f:- e47:+ e4f:- eb1:+ eb2:- eb4:+ ebd:- ec8:+ ed0:- f18:+ f1a:- f35:+ f36:-",
  "f37:+ f38:- f39:+ f3a:- f3e:+ f40:- f71:+ f85:- f86:+ f88:- f8d:+ fbe:- fc6:+ fc7:- 102b:+",
  "103f:- 1056:+ 105a:- 105e:+ 1061:- 1062:+ 1065:- 1067:+ 106e:- 1071:+ 1075:- 1082:+ 108e:-",
  "108f:+ 1090:- 109a:+ 109e:- 135d:+ 1360:- 1712:+ 171f:- 1732:+ 1735:- 1752:+ 1760:- 1772:+",
  "1780:- 17b4:+ 17d4:- 17dd:+ 17e0:- 180b:+ 180e:- 180f:+ 1810:- 1885:+ 1887:- 18a9:+ 18aa:-",
  "1920:+ 1940:- 1a17:+ 1a1e:- 1a55:+ 1a80:- 1ab0:+ 1b05:- 1b34:+ 1b45:- 1b6b:+ 1b74:- 1b80:+",
  "1b83:- 1ba1:+ 1bae:- 1be6:+ 1bfc:- 1c24:+ 1c3b:- 1cd0:+ 1cd3:- 1cd4:+ 1ce9:- 1ced:+ 1cee:-",
  "1cf4:+ 1cf5:- 1cf7:+ 1cfa:- 1dc0:+ 1e00:- 20d0:+ 2100:- 2cef:+ 2cf2:- 2d7f:+ 2d80:- 2de0:+",
  "2e00:- 302a:+ 3030:- 3099:+ 309b:- a66f:+ a673:- a674:+ a67e:- a69e:+ a6a0:- a6f0:+ a6f2:-",
  "a802:+ a803:- a806:+ a807:- a80b:+ a80c:- a823:+ a828:- a82c:+ a830:- a880:+ a882:- a8b4:+",
  "a8ce:- a8e0:+ a8f2:- a8ff:+ a900:- a926:+ a92e:- a947:+ a95f:- a980:+ a984:- a9b3:+ a9c1:-",
  "a9e5:+ a9e6:- aa29:+ aa40:- aa43:+ aa44:- aa4c:+ aa50:- aa7b:+ aa7e:- aab0:+ aab1:- aab2:+",
  "aab5:- aab7:+ aab9:- aabe:+ aac0:- aac1:+ aac2:- aaeb:+ aaf0:- aaf5:+ ab01:- abe3:+ abeb:-",
  "abec:+ abf0:- fb1e:+ fb1f:- fe00:+ fe10:- fe20:+ fe30:- 101fd:+ 10280:- 102e0:+ 102e1:-",
  "10376:+ 10380:- 10a01:+ 10a10:- 10a38:+ 10a40:- 10ae5:+ 10aeb:- 10d24:+ 10d30:- 10d69:+",
  "10d6e:- 10eab:+ 10ead:- 10efa:+ 10f00:- 10f46:+ 10f51:- 10f82:+ 10f86:- 11000:+ 11003:-",
  "11038:+ 11047:- 11070:+ 11071:- 11073:+ 11075:- 1107f:+ 11083:- 110b0:+ 110bb:- 110c2:+",
  "110cd:- 11100:+ 11103:- 11127:+ 11136:- 11145:+ 11147:- 11173:+ 11174:- 11180:+ 11183:-",
  "111b3:+ 111c1:- 111c9:+ 111cd:- 111ce:+ 111d0:- 1122c:+ 11238:- 1123e:+ 1123f:- 11241:+",
  "11280:- 112df:+ 112f0:- 11300:+ 11305:- 1133b:+ 1133d:- 1133e:+ 11350:- 11357:+ 1135d:-",
  "11362:+ 11380:- 113b8:+ 113d1:- 113d2:+ 113d3:- 113e1:+ 11400:- 11435:+ 11447:- 1145e:+",
  "1145f:- 114b0:+ 114c4:- 115af:+ 115c1:- 115dc:+ 11600:- 11630:+ 11641:- 116ab:+ 116b8:-",
  "1171d:+ 11730:- 1182c:+ 1183b:- 11930:+ 1193f:- 11940:+ 11941:- 11942:+ 11944:- 119d1:+",
  "119e1:- 119e4:+ 11a00:- 11a01:+ 11a0b:- 11a33:+ 11a3a:- 11a3b:+ 11a3f:- 11a47:+ 11a50:-",
  "11a51:+ 11a5c:- 11a8a:+ 11a9a:- 11b60:+ 11bc0:- 11c2f:+ 11c40:- 11c92:+ 11d00:- 11d31:+",
  "11d46:- 11d47:+ 11d50:- 11d8a:+ 11d98:- 11ef3:+ 11ef7:- 11f00:+ 11f02:- 11f03:+ 11f04:-",
  "11f34:+ 11f43:- 11f5a:+ 11fb0:- 13440:+ 13441:- 13447:+ 13460:- 1611e:+ 16130:- 16af0:+",
  "16af5:- 16b30:+ 16b37:- 16f4f:+ 16f50:- 16f51:+ 16f93:- 16fe4:+ 16ff2:- 1bc9d:+ 1bc9f:-",
  "1cf00:+ 1cf50:- 1d165:+ 1d16a:- 1d16d:+ 1d173:- 1d17b:+ 1d183:- 1d185:+ 1d18c:- 1d1aa:+",
  "1d1ae:- 1d242:+ 1d245:- 1da00:+ 1da37:- 1da3b:+ 1da6d:- 1da75:+ 1da76:- 1da84:+ 1da85:-",
  "1da9b:+ 1df00:- 1e000:+ 1e030:- 1e08f:+ 1e100:- 1e130:+ 1e137:- 1e2ae:+ 1e2c0:- 1e2ec:+",
  "1e2f0:- 1e4ec:+ 1e4f0:- 1e5ee:+ 1e5f0:- 1e6e3:+ 1e6e4:- 1e6e6:+ 1e6e7:- 1e6ee:+ 1e6f0:-",
  "1e6f5:+ 1e6fe:- 1e8d0:+ 1e900:- 1e944:+ 1e94b:- e0100:+ f0000:-"]

def runs : Array (Run Bool) := Run.ofLines read? lines

end Mark

/-- Whether a character combines with the one before it. There is none below U+0300. -/
def isMark (c : Char) : Bool := 0x300 ≤ c.toNat && Run.value? Mark.runs c = some true

end TableClient.Text
