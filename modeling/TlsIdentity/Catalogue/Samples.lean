import TlsIdentity.Catalogue.Sample

/-!
# The sample certificates

Eight self-signed certificates, one of them out of date, an authority with a certificate that it issued,
and an intermediate authority with a certificate of its own.
-/

namespace TlsIdentity.Samples

/-- A self-signed certificate for two hosts. -/
def aSample : Sample where
  name := "a"
  certText := Pem.sectionText "CERTIFICATE"
      ["MIIBRjCB7aADAgECAhQqTGSyIdWb35QRR9WAUEm+rJtUwjAKBggqhkjOPQQDAjAU",
       "MRIwEAYDVQQDDAlmaXh0dXJlIGEwIBcNNzUwMTAxMDAwMDAwWhgPNDA5NjAxMDEw",
       "MDAwMDBaMBQxEjAQBgNVBAMMCWZpeHR1cmUgYTBZMBMGByqGSM49AgEGCCqGSM49",
       "AwEHA0IABCOCFlpkFT9XiGqlVQCZz6EIDco9ytwGMdFoceBeAk3tbJOP6ulDKZ7s",
       "Ye0GhLj9TGMkoPUS2B+tcp65ts12jnKjGzAZMBcGA1UdEQQQMA6CBWEuY29tggVi",
       "LmNvbTAKBggqhkjOPQQDAgNIADBFAiBl43OTp/7BT3lDm17XB/+JuIoq0oXo8R/6",
       "mRpEge8wBgIhAIUVbtg/MgC5Hjkl7HUywciDVPy0zP4ETxzJbo6A9KTn"]
  keyText := Pem.sectionText "PRIVATE KEY"
      ["MIGHAgEAMBMGByqGSM49AgEGCCqGSM49AwEHBG0wawIBAQQgFg0SNt3xtVXV6d7T",
       "kXLDhA3zILMDMjWqWCV3Wb6kEU2hRANCAAQjghZaZBU/V4hqpVUAmc+hCA3KPcrc",
       "BjHRaHHgXgJN7WyTj+rpQyme7GHtBoS4/UxjJKD1EtgfrXKeubbNdo5y"]
  legacyKeyText := some (Pem.sectionText "EC PRIVATE KEY"
      ["MHcCAQEEIBYNEjbd8bVV1ene05Fyw4QN8yCzAzI1qlgld1m+pBFNoAoGCCqGSM49",
       "AwEHoUQDQgAEI4IWWmQVP1eIaqVVAJnPoQgNyj3K3AYx0Whx4F4CTe1sk4/q6UMp",
       "nuxh7QaEuP1MYySg9RLYH61ynrm2zXaOcg=="])
  subjects := [.host (.exact "a.com"), .host (.exact "b.com")]
  issuer := "a"

/-- The authority. -/
def caSample : Sample where
  name := "ca"
  certText := Pem.sectionText "CERTIFICATE"
      ["MIIBYTCCAQagAwIBAgIUJ2RZ6Izdfq8WQke0GeJfmaevQGcwCgYIKoZIzj0EAwIw",
       "FTETMBEGA1UEAwwKZml4dHVyZSBjYTAgFw03NTAxMDEwMDAwMDBaGA80MDk2MDEw",
       "MTAwMDAwMFowFTETMBEGA1UEAwwKZml4dHVyZSBjYTBZMBMGByqGSM49AgEGCCqG",
       "SM49AwEHA0IABAa58EFwLrAPqZKBkj0MBIVk2nUA3xlRnpBe6XV+DUjF0EQJEmFQ",
       "HWKQ4xFYdvD1NLdl5G8n+3a2OKAgrLdsh4ujMjAwMB0GA1UdDgQWBBQiDB9G1ZZp",
       "5GLyNHH/gcQst1mT+TAPBgNVHRMBAf8EBTADAQH/MAoGCCqGSM49BAMCA0kAMEYC",
       "IQDaOfTZmOLBA8+DN/gx89vbbrcQlkNtL6qqnLU44NKDpAIhANtkbbo94YA8P9no",
       "Ahi+VFcNURcprSTWbI1mXlbdpkg+"]
  keyText := Pem.sectionText "PRIVATE KEY"
      ["MIGHAgEAMBMGByqGSM49AgEGCCqGSM49AwEHBG0wawIBAQQgLiP5Y8p8M7M66CP+",
       "S1wgXb43QnRmIXOmVkHX0s33HoahRANCAAQGufBBcC6wD6mSgZI9DASFZNp1AN8Z",
       "UZ6QXul1fg1IxdBECRJhUB1ikOMRWHbw9TS3ZeRvJ/t2tjigIKy3bIeL"]
  subjects := []
  issuer := "ca"
  isAuthority := true

/-- A self-signed certificate of a client. -/
def cliSample : Sample where
  name := "cli"
  certText := Pem.sectionText "CERTIFICATE"
      ["MIIBSDCB8KADAgECAhRxx+tg9igwS15jYZtX2I7Vnk+BjzAKBggqhkjOPQQDAjAW",
       "MRQwEgYDVQQDDAtmaXh0dXJlIGNsaTAgFw03NTAxMDEwMDAwMDBaGA80MDk2MDEw",
       "MTAwMDAwMFowFjEUMBIGA1UEAwwLZml4dHVyZSBjbGkwWTATBgcqhkjOPQIBBggq",
       "hkjOPQMBBwNCAAQLvEjIzsJT/pEMVNWDKc+bNUdODOHJOMqklgo1OHf/wCRMBrjY",
       "ZP1VsYhPMK2ulqOzn/jGR/D5DfvcKupOtIYToxowGDAWBgNVHREEDzANggtjbGll",
       "bnQudGVzdDAKBggqhkjOPQQDAgNHADBEAiAjGttqUVuJrciRJvSHRN+8OzqgDyCt",
       "H5b/ptLiiGzFSgIgbpelkJCgUQc9DANr5BHFCcg3vicy17I2yrOW0uDZwC8="]
  keyText := Pem.sectionText "PRIVATE KEY"
      ["MIGHAgEAMBMGByqGSM49AgEGCCqGSM49AwEHBG0wawIBAQQg4SWqlz/Pt/bsSGjR",
       "BB9dHgNmPzdWzCWm8N2an2RgxIuhRANCAAQLvEjIzsJT/pEMVNWDKc+bNUdODOHJ",
       "OMqklgo1OHf/wCRMBrjYZP1VsYhPMK2ulqOzn/jGR/D5DfvcKupOtIYT"]
  subjects := [.host (.exact "client.test")]
  issuer := "cli"

/-- A certificate issued by the intermediate authority. -/
def deepSample : Sample where
  name := "deep"
  certText := Pem.sectionText "CERTIFICATE"
      ["MIIBSjCB8aADAgECAhQ5xlooVN0lKWuThPF0NfKyFYjqxDAKBggqhkjOPQQDAjAY",
       "MRYwFAYDVQQDDA1maXh0dXJlIGludGVyMCAXDTc1MDEwMTAwMDAwMFoYDzQwOTYw",
       "MTAxMDAwMDAwWjAXMRUwEwYDVQQDDAxmaXh0dXJlIGRlZXAwWTATBgcqhkjOPQIB",
       "BggqhkjOPQMBBwNCAAQk0jAGT2TADgScGuhyQW0SY6BMzSvHBaidN8eC+ZREdZk0",
       "fa5h7I7/p137m4fF/N1BMKyAiZKPON7uu6QNh6z9oxgwFjAUBgNVHREEDTALgglk",
       "ZWVwLnRlc3QwCgYIKoZIzj0EAwIDSAAwRQIhAPieO+g5+TDputYQjmFo/INrWaEA",
       "uW6oUhgu10eSXnUBAiADExpdRuQy44EIdqq5pptQsUa7cXeXCi30sgHfQoorsA=="]
  keyText := Pem.sectionText "PRIVATE KEY"
      ["MIGHAgEAMBMGByqGSM49AgEGCCqGSM49AwEHBG0wawIBAQQgp/Py6ywXTj3Amk6N",
       "R1EVnNG6Z/i+DdLGO6zaXcV302OhRANCAAQk0jAGT2TADgScGuhyQW0SY6BMzSvH",
       "BaidN8eC+ZREdZk0fa5h7I7/p137m4fF/N1BMKyAiZKPON7uu6QNh6z9"]
  subjects := [.host (.exact "deep.test")]
  issuer := "inter"

/-- A self-signed certificate to fall back on. -/
def dfltSample : Sample where
  name := "dflt"
  certText := Pem.sectionText "CERTIFICATE"
      ["MIIBSzCB86ADAgECAhQ6FYunId964eqMvJAJLRFifKAT4zAKBggqhkjOPQQDAjAX",
       "MRUwEwYDVQQDDAxmaXh0dXJlIGRmbHQwIBcNNzUwMTAxMDAwMDAwWhgPNDA5NjAx",
       "MDEwMDAwMDBaMBcxFTATBgNVBAMMDGZpeHR1cmUgZGZsdDBZMBMGByqGSM49AgEG",
       "CCqGSM49AwEHA0IABLKmwHNszIly/uiRMU9Vx9rz9xEA+VCPpIPBqtdlNN9SSYdR",
       "JQwAJjNOHdsFh8NKSFDvWTIdo3uhs6Eu0WPNv9GjGzAZMBcGA1UdEQQQMA6CDGRl",
       "ZmF1bHQudGVzdDAKBggqhkjOPQQDAgNHADBEAiBybWiyvoijVZecdUl0KA1Z3kDs",
       "xl/ZCtDsRe2+XNQbQAIgbcnRnHRtDiCiBmehIyyXHTRwO8WtDMLVU3IaeRDoVlE="]
  keyText := Pem.sectionText "PRIVATE KEY"
      ["MIGHAgEAMBMGByqGSM49AgEGCCqGSM49AwEHBG0wawIBAQQgu01JJ7HphpoDcVvx",
       "eh3Is3PxWoEjBTWJqjxgi7nzf/mhRANCAASypsBzbMyJcv7okTFPVcfa8/cRAPlQ",
       "j6SDwarXZTTfUkmHUSUMACYzTh3bBYfDSkhQ71kyHaN7obOhLtFjzb/R"]
  subjects := [.host (.exact "default.test")]
  issuer := "dflt"

/-- A self-signed certificate with an Edwards-curve key. -/
def edSample : Sample where
  name := "ed"
  algorithm := .ed25519
  certText := Pem.sectionText "CERTIFICATE"
      ["MIIBAzCBtqADAgECAhRUP4DeaqnrrCd8S7F6C+fZqwhcsTAFBgMrZXAwFTETMBEG",
       "A1UEAwwKZml4dHVyZSBlZDAgFw03NTAxMDEwMDAwMDBaGA80MDk2MDEwMTAwMDAw",
       "MFowFTETMBEGA1UEAwwKZml4dHVyZSBlZDAqMAUGAytlcAMhAL7VH6fHlA3ftfT4",
       "VixQI/Rhho4F9+LGgaFr8xv8BSOCoxYwFDASBgNVHREECzAJggdlZC50ZXN0MAUG",
       "AytlcANBAJuj3uajBZ1xfSqBTpVfdxx5F20qTTGojyDTAsxmOaPYHlIKpAgW2aBK",
       "t/fSyoH8uywtFdut3n8FpRA7tm2mqAM="]
  keyText := Pem.sectionText "PRIVATE KEY"
      ["MFECAQEwBQYDK2VwBCIEIEs2cqjs7cNYzge5rT3tlyt0M5VdfnKmQ2UBloKv2uVO",
       "gSEAvtUfp8eUDd+19PhWLFAj9GGGjgX34saBoWvzG/wFI4I="]
  subjects := [.host (.exact "ed.test")]
  issuer := "ed"

/-- The intermediate authority, issued by the authority. -/
def interSample : Sample where
  name := "inter"
  certText := Pem.sectionText "CERTIFICATE"
      ["MIIBYjCCAQmgAwIBAgIUPUkr3gMoqR2q69JpKslCHXwOG8swCgYIKoZIzj0EAwIw",
       "FTETMBEGA1UEAwwKZml4dHVyZSBjYTAgFw03NTAxMDEwMDAwMDBaGA80MDk2MDEw",
       "MTAwMDAwMFowGDEWMBQGA1UEAwwNZml4dHVyZSBpbnRlcjBZMBMGByqGSM49AgEG",
       "CCqGSM49AwEHA0IABCYFGn0mhSVulBB7KZKROgVdT/hVkJFLCOb0JrreHeqHAFnR",
       "OGk7PfGBpEsTRWKWINWHii6cItNrIdOXLUAAbjSjMjAwMB0GA1UdDgQWBBSs6Zfq",
       "qPqm23MvKoPQWb487fCp/TAPBgNVHRMBAf8EBTADAQH/MAoGCCqGSM49BAMCA0cA",
       "MEQCIGQwxT+PHt4Yr5PGee6xAIP5DrALqlWJ8g1BYjUjbvzXAiAw6m8GGX9tfTWc",
       "HuH3Y5RC3wOVVd52X7Im2fyz0b5lQw=="]
  keyText := Pem.sectionText "PRIVATE KEY"
      ["MIGHAgEAMBMGByqGSM49AgEGCCqGSM49AwEHBG0wawIBAQQgYNZiQgYZDevdWc3N",
       "geX5p7THDZiugk/ZMctyMSifVEihRANCAAQmBRp9JoUlbpQQeymSkToFXU/4VZCR",
       "Swjm9Ca63h3qhwBZ0ThpOz3xgaRLE0ViliDVh4ounCLTayHTly1AAG40"]
  subjects := []
  issuer := "ca"
  isAuthority := true

/-- A certificate issued by the authority. -/
def leafSample : Sample where
  name := "leaf"
  certText := Pem.sectionText "CERTIFICATE"
      ["MIIBSDCB7qADAgECAhQU0VzlCKd0nc7pvBnkRi9Uzp/HKzAKBggqhkjOPQQDAjAV",
       "MRMwEQYDVQQDDApmaXh0dXJlIGNhMCAXDTc1MDEwMTAwMDAwMFoYDzQwOTYwMTAx",
       "MDAwMDAwWjAXMRUwEwYDVQQDDAxmaXh0dXJlIGxlYWYwWTATBgcqhkjOPQIBBggq",
       "hkjOPQMBBwNCAAQf+ZC179YqKNET8jfQM+TIMngfIuWjLLlOaPNnRw+KaelGMiXK",
       "X93XTiRBiEKGWDAGrsqOVXyr85yWmytG8BshoxgwFjAUBgNVHREEDTALgglsZWFm",
       "LnRlc3QwCgYIKoZIzj0EAwIDSQAwRgIhAOzbyYQRdnJwOVRdbtukPb2K1qKoASsQ",
       "QIiLOQU63wD9AiEA2YAuQNoni+wvQTbvoxMqiasa7zE/I59Pi55hHGoZvDo="]
  keyText := Pem.sectionText "PRIVATE KEY"
      ["MIGHAgEAMBMGByqGSM49AgEGCCqGSM49AwEHBG0wawIBAQQgDxvtcswTD1s1D261",
       "23tE72rdSNCM25DsY5OXoltLmWChRANCAAQf+ZC179YqKNET8jfQM+TIMngfIuWj",
       "LLlOaPNnRw+KaelGMiXKX93XTiRBiEKGWDAGrsqOVXyr85yWmytG8Bsh"]
  subjects := [.host (.exact "leaf.test")]
  issuer := "ca"

/-- A self-signed certificate that was valid in 2001 only. -/
def oldSample : Sample where
  name := "old"
  certText := Pem.sectionText "CERTIFICATE"
      ["MIIBQTCB6KADAgECAhQ5KYiwWq7n+8l/l+M94fin0RrmnTAKBggqhkjOPQQDAjAW",
       "MRQwEgYDVQQDDAtmaXh0dXJlIG9sZDAeFw0wMTAxMDEwMDAwMDBaFw0wMjAxMDEw",
       "MDAwMDBaMBYxFDASBgNVBAMMC2ZpeHR1cmUgb2xkMFkwEwYHKoZIzj0CAQYIKoZI",
       "zj0DAQcDQgAEyT9dD4TL1BAgoMgRWZRePMXJimwVbgccQIDsl4rOIhzZL1NcxznA",
       "O1PNxhOdSXN3ibw7nblI6T4Dv66denJuqKMUMBIwEAYDVR0RBAkwB4IFYS5jb20w",
       "CgYIKoZIzj0EAwIDSAAwRQIgV9QBeu8z2FGJXsCVayeqTY6zQ3xvwdwD+H9YYrba",
       "peoCIQD0T/1WOmhz96f4SP0P89xMEAY1gI1paR3mHdxZ/MaZWw=="]
  keyText := Pem.sectionText "PRIVATE KEY"
      ["MIGHAgEAMBMGByqGSM49AgEGCCqGSM49AwEHBG0wawIBAQQgyFDSLJZ3fVW7WgEq",
       "+EwLc6hosUaPbAhdBP4Lmh/luL6hRANCAATJP10PhMvUECCgyBFZlF48xcmKbBVu",
       "BxxAgOyXis4iHNkvU1zHOcA7U83GE51Jc3eJvDuduUjpPgO/rp16cm6o"]
  subjects := [.host (.exact "a.com")]
  issuer := "old"
  notBefore := 978307200
  notAfter := 1009843200

/-- A self-signed certificate with an RSA key. -/
def rsaSample : Sample where
  name := "rsa"
  algorithm := .rsa
  certText := Pem.sectionText "CERTIFICATE"
      ["MIIC0zCCAbugAwIBAgIUVUmU4XNGFGBFk4hNj9ZUAjuq82swDQYJKoZIhvcNAQEL",
       "BQAwFjEUMBIGA1UEAwwLZml4dHVyZSByc2EwIBcNNzUwMTAxMDAwMDAwWhgPNDA5",
       "NjAxMDEwMDAwMDBaMBYxFDASBgNVBAMMC2ZpeHR1cmUgcnNhMIIBIjANBgkqhkiG",
       "9w0BAQEFAAOCAQ8AMIIBCgKCAQEAw6YCJgrSoBu8B6SFUFbbz86RggzWsdQveKll",
       "BfA8ryANfqUfO0cjRsJYpBxUaGLwglAZ+EEm24Kar9QioOEjSx0/W0xFP13TyDXB",
       "N6kJRgR1N3AdurlNSa3lOUss913BPg7ufwb5KInn4ammYHq+7ZtBxHdYecGt3nrw",
       "iQ+rWtcERf/unsGA33a7wYPUvGuDPSmu/bv1GCT3wBzuPlfIPnk/RMgUiE5gVR2S",
       "oKsmsc7C5rYZuNZyj+uYyF6NXMgpKFYS3O6Yefwg7ZfyLD3zuGXDiLn2eGmICfMt",
       "5tDTp/62mLLDzqoTki1WQJNEZD6CfXd0tk/hIaaBQ+TOVv2STwIDAQABoxcwFTAT",
       "BgNVHREEDDAKgghyc2EudGVzdDANBgkqhkiG9w0BAQsFAAOCAQEApwSMZmg3GUXm",
       "DCUIRAqgHZ37PIB89he8C7qHaKVlLYntAeGgq1hE8GGKcuGMc7jxgp+4XBHU/qs1",
       "tJEWHLyYGpw0PxCB5G4mkNSxGvhlhjIPCNZnztXZJ4H999rkTZZgAbrjGxyLrUJT",
       "0zNPkOXQhTCoqJCSXTe+th/6yesxbETKEFKJBICil6TT6hVYMgae7JW58lB2rPcF",
       "DeW5waOOFWMPV2+fT68ZJHkrMbLPCG5Dfd6N+Vp6CSqSJEyQhNuM7d374F1nDodW",
       "ugmyJkgl5NrN0Ia4HrMtrh2wAZAAQW/P97q0g8TGHWFj+IlddLUuTGZ/nOaFZ4zx",
       "aGQ6Fv3uHg=="]
  keyText := Pem.sectionText "PRIVATE KEY"
      ["MIIEvQIBADANBgkqhkiG9w0BAQEFAASCBKcwggSjAgEAAoIBAQDDpgImCtKgG7wH",
       "pIVQVtvPzpGCDNax1C94qWUF8DyvIA1+pR87RyNGwlikHFRoYvCCUBn4QSbbgpqv",
       "1CKg4SNLHT9bTEU/XdPINcE3qQlGBHU3cB26uU1JreU5Syz3XcE+Du5/Bvkoiefh",
       "qaZger7tm0HEd1h5wa3eevCJD6ta1wRF/+6ewYDfdrvBg9S8a4M9Ka79u/UYJPfA",
       "HO4+V8g+eT9EyBSITmBVHZKgqyaxzsLmthm41nKP65jIXo1cyCkoVhLc7ph5/CDt",
       "l/IsPfO4ZcOIufZ4aYgJ8y3m0NOn/raYssPOqhOSLVZAk0RkPoJ9d3S2T+EhpoFD",
       "5M5W/ZJPAgMBAAECggEAX2I84+0c2MAMwLEd6ZgfHEX6PKwjs5jd9/al8Oo5u6tl",
       "yNuZyV2aPjIb4w6IvEeYN//zWUvyNMyMu7Ixm7uHaGR+8fTSQd1tlctXQtqfUcp0",
       "ly2K4PDcVFJ6UZ9r8cF8p9PBxJ5StMffC+6Y1aqiENdDjhQdR2b8bF4FjNzdzq/w",
       "0mRRNAJ1i6o1v4pz6k+/ExDhQhJpAq8nq1ouJEKwo/hA/XGkZr7JHBsY0Vy9MMgZ",
       "K8Rz+zcLg3Hnp5Ox4lxDugx9QpVVm1cmflZ8qfTouIh+WXHtdivQhon0wO0WSjho",
       "z4l1XOO8smBSqHTMqAZhlvCjLqhYgm0QMuVjcSKlWQKBgQDpqQwmSeGdA+LCd5gO",
       "b8eIU177XZHfZkAdbmSz+RCKsNpQWKW3e/7Z2FOS0djlgFr5XEo8OEJ7ryLz2AyA",
       "yBBDWwOM8qmiX9cO7m8luZZVTCq5hjx388D7lvAiGsKumcksMVMPmOQF6S+tN62l",
       "4/M04Fr/lxoFt6YZ7duUYNnvNQKBgQDWWpoAFArAUoOcAw0FmSLqWGrleGkBInkX",
       "zSJCDhVG15dIKlxHAuDy/Y+CovUq7lCvlw07/lzFID7fXk1XnYnmBhyQ5jwEo5TJ",
       "ZMVoCuY4pbujD4IHp8gu+a2iCTz7lN+uULJsZK9HHX01EzBlkT9wqjGBN9PuB0US",
       "Yd+bpJLX8wKBgHZuysu1cvek+pDbEWVv3tEIgQIjoUZ8i07fn4dhXLMPhPholkZ0",
       "QO6mKWYnmypobrQpxS7UzU3nrW2vOlckEKozPY95h+XXcigNTqTudnZxjs5ObePW",
       "1yAulzSSH89j/4W40oL7WchtM083A3ssGR/aAAXAzt3LAhPubfe9R3lpAoGAKBAt",
       "AmC8la+Wa51iXK5/iR9Xc2Yq8gxYZ6tugLwTG/eFjfZk4tzV4HSl0vvUKN7786We",
       "0py7CBj7x1Hf0MVgFb8ErcxqYU+VqoKMJuMKnoHTbSmj2vxv/N+rpUJmxHrRx8nL",
       "X1j+LaOEWFwqyoD4Q3173TPrB20SatoiKfv7eiMCgYEA16jFSyR47r1bal4/n90z",
       "2/EJD+klaDhOLgySWa/d/HF2QaHOJdy7Eu3xtJRZExdx2Vvg3u5xxEf9f/8IJCZ0",
       "yuabH3zrrdDuDFugCuiqffKlvcgPCCcyrS8iRIorl8bHfi99pg5GqZqFWBc2DDCC",
       "C5sICA/I3Ipt/BWnqAx25k0="]
  legacyKeyText := some (Pem.sectionText "RSA PRIVATE KEY"
      ["MIIEowIBAAKCAQEAw6YCJgrSoBu8B6SFUFbbz86RggzWsdQveKllBfA8ryANfqUf",
       "O0cjRsJYpBxUaGLwglAZ+EEm24Kar9QioOEjSx0/W0xFP13TyDXBN6kJRgR1N3Ad",
       "urlNSa3lOUss913BPg7ufwb5KInn4ammYHq+7ZtBxHdYecGt3nrwiQ+rWtcERf/u",
       "nsGA33a7wYPUvGuDPSmu/bv1GCT3wBzuPlfIPnk/RMgUiE5gVR2SoKsmsc7C5rYZ",
       "uNZyj+uYyF6NXMgpKFYS3O6Yefwg7ZfyLD3zuGXDiLn2eGmICfMt5tDTp/62mLLD",
       "zqoTki1WQJNEZD6CfXd0tk/hIaaBQ+TOVv2STwIDAQABAoIBAF9iPOPtHNjADMCx",
       "HemYHxxF+jysI7OY3ff2pfDqOburZcjbmcldmj4yG+MOiLxHmDf/81lL8jTMjLuy",
       "MZu7h2hkfvH00kHdbZXLV0Lan1HKdJctiuDw3FRSelGfa/HBfKfTwcSeUrTH3wvu",
       "mNWqohDXQ44UHUdm/GxeBYzc3c6v8NJkUTQCdYuqNb+Kc+pPvxMQ4UISaQKvJ6ta",
       "LiRCsKP4QP1xpGa+yRwbGNFcvTDIGSvEc/s3C4Nx56eTseJcQ7oMfUKVVZtXJn5W",
       "fKn06LiIfllx7XYr0IaJ9MDtFko4aM+JdVzjvLJgUqh0zKgGYZbwoy6oWIJtEDLl",
       "Y3EipVkCgYEA6akMJknhnQPiwneYDm/HiFNe+12R32ZAHW5ks/kQirDaUFilt3v+",
       "2dhTktHY5YBa+VxKPDhCe68i89gMgMgQQ1sDjPKpol/XDu5vJbmWVUwquYY8d/PA",
       "+5bwIhrCrpnJLDFTD5jkBekvrTetpePzNOBa/5caBbemGe3blGDZ7zUCgYEA1lqa",
       "ABQKwFKDnAMNBZki6lhq5XhpASJ5F80iQg4VRteXSCpcRwLg8v2PgqL1Ku5Qr5cN",
       "O/5cxSA+315NV52J5gYckOY8BKOUyWTFaArmOKW7ow+CB6fILvmtogk8+5TfrlCy",
       "bGSvRx19NRMwZZE/cKoxgTfT7gdFEmHfm6SS1/MCgYB2bsrLtXL3pPqQ2xFlb97R",
       "CIECI6FGfItO35+HYVyzD4T4aJZGdEDupilmJ5sqaG60KcUu1M1N561trzpXJBCq",
       "Mz2PeYfl13IoDU6k7nZ2cY7OTm3j1tcgLpc0kh/PY/+FuNKC+1nIbTNPNwN7LBkf",
       "2gAFwM7dywIT7m33vUd5aQKBgCgQLQJgvJWvlmudYlyuf4kfV3NmKvIMWGerboC8",
       "Exv3hY32ZOLc1eB0pdL71Cje+/OlntKcuwgY+8dR39DFYBW/BK3MamFPlaqCjCbj",
       "Cp6B020po9r8b/zfq6VCZsR60cfJy19Y/i2jhFhcKsqA+EN9e90z6wdtEmraIin7",
       "+3ojAoGBANeoxUskeO69W2peP5/dM9vxCQ/pJWg4Ti4Mklmv3fxxdkGhziXcuxLt",
       "8bSUWRMXcdlb4N7uccRH/X//CCQmdMrmmx98663Q7gxboAroqn3ypb3IDwgnMq0v",
       "IkSKK5fGx34vfaYORqmahVgXNgwwggubCAgPyNyKbfwVp6gMduZN"])
  subjects := [.host (.exact "rsa.test")]
  issuer := "rsa"

/-- A self-signed certificate for a host and two addresses. -/
def srvSample : Sample where
  name := "srv"
  certText := Pem.sectionText "CERTIFICATE"
      ["MIIBYjCCAQigAwIBAgIUP6CmZrAJH+2yyvnNNHJ9yHzZzkcwCgYIKoZIzj0EAwIw",
       "FjEUMBIGA1UEAwwLZml4dHVyZSBzcnYwIBcNNzUwMTAxMDAwMDAwWhgPNDA5NjAx",
       "MDEwMDAwMDBaMBYxFDASBgNVBAMMC2ZpeHR1cmUgc3J2MFkwEwYHKoZIzj0CAQYI",
       "KoZIzj0DAQcDQgAEmnikuRjh/+/Ac3cGdRpS5H03FqtysfM4hNXfD8E+56liNpaB",
       "63ZCiDw/89WfcYp1nGVc1Vz6rAdU7cnVamlHxaMyMDAwLgYDVR0RBCcwJYILc2Vy",
       "dmVyLnRlc3SHBH8AAAGHEAAAAAAAAAAAAAAAAAAAAAEwCgYIKoZIzj0EAwIDSAAw",
       "RQIhAMrjMPxFbDqZNJ+IdLHh2I1ZBNS4UPj1wRCWv10eSRDEAiBugE9clAxjTPL2",
       "auJjbskqT0VNMTwn5Aa4PbE4c7+9Wg=="]
  keyText := Pem.sectionText "PRIVATE KEY"
      ["MIGHAgEAMBMGByqGSM49AgEGCCqGSM49AwEHBG0wawIBAQQgNJT/dXUV/mxLoH88",
       "1eAzYI4ZwgNbDy2B5Y0qrjbXl4ahRANCAASaeKS5GOH/78BzdwZ1GlLkfTcWq3Kx",
       "8ziE1d8PwT7nqWI2loHrdkKIPD/z1Z9xinWcZVzVXPqsB1TtydVqaUfF"]
  subjects :=
    [.host (.exact "server.test"), .ipv4 ⟨127, 0, 0, 1⟩, .ipv6 ⟨[0, 0, 0, 0, 0, 0, 0, 1], rfl⟩]
  issuer := "srv"

/-- A self-signed certificate for the hosts below a name. -/
def wildSample : Sample where
  name := "wild"
  certText := Pem.sectionText "CERTIFICATE"
      ["MIIBRzCB7qADAgECAhRczneZBVCfxDOVl+wXTajQ9wugFzAKBggqhkjOPQQDAjAX",
       "MRUwEwYDVQQDDAxmaXh0dXJlIHdpbGQwIBcNNzUwMTAxMDAwMDAwWhgPNDA5NjAx",
       "MDEwMDAwMDBaMBcxFTATBgNVBAMMDGZpeHR1cmUgd2lsZDBZMBMGByqGSM49AgEG",
       "CCqGSM49AwEHA0IABFC4cIF/mMbNc+voMDRdA+wJaGl8a3PT06NuHY43+IAtdBwl",
       "1HlaBNzpkECoUs4f34am0B+aQ18llzz2iuY+qvGjFjAUMBIGA1UdEQQLMAmCByou",
       "Yi5jb20wCgYIKoZIzj0EAwIDSAAwRQIgMwSQ7DR0+Fe13nqzkb63N4+DHx6AAjAy",
       "jCiu8QnTv6ECIQCbxxySqiJLlTLjZ3KCImVXui/htRe/Z0Cnt37aMYmf+g=="]
  keyText := Pem.sectionText "PRIVATE KEY"
      ["MIGHAgEAMBMGByqGSM49AgEGCCqGSM49AwEHBG0wawIBAQQgcJm1YfmohkBZ0cEy",
       "cHEIkdwoG86tfVK4hlb3dv98RK2hRANCAARQuHCBf5jGzXPr6DA0XQPsCWhpfGtz",
       "09Ojbh2ON/iALXQcJdR5WgTc6ZBAqFLOH9+GptAfmkNfJZc89ormPqrx"]
  subjects := [.host (.below "b.com")]
  issuer := "wild"

/-- All samples. -/
def all : List Sample :=
  [aSample, caSample, cliSample, deepSample, dfltSample, edSample, interSample, leafSample, oldSample,
   rsaSample, srvSample, wildSample]

/-- The sample of a name. -/
def named? (name : String) : Option Sample :=
  all.find? (·.name = name)

/-- What the samples' certificates say. -/
def catalogue : Catalogue :=
  all.filterMap Sample.entry?

/-- The time at which the samples are judged, late in 2023. -/
def time : Nat := 1700000000

end TlsIdentity.Samples
