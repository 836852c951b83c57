/-
  Types of pictures, models and fonts.

  Key definitions include:
    * `PluginStudio.Http.MediaType.picture`
-/

------------------------------------------------------------
-- The Types
------------------------------------------------------------

namespace PluginStudio

namespace Http

namespace MediaType

/- Types of pictures, models and fonts, with the extensions that tell of them. -/
def picture : List (String × List String) :=
  [
    ("chemical/x-cdx", ["cdx"]),
    ("chemical/x-cif", ["cif"]),
    ("chemical/x-cmdf", ["cmdf"]),
    ("chemical/x-cml", ["cml"]),
    ("chemical/x-csml", ["csml"]),
    ("chemical/x-xyz", ["xyz"]),
    ("drawing/x-dwf", ["dwf"]),
    ("font/collection", ["ttc"]),
    ("font/ttf", ["ttf"]),
    ("font/woff2", ["woff2"]),
    ("image/apng", ["apng"]),
    ("image/avif", ["avif"]),
    ("image/bmp", ["bmp", "dib"]),
    ("image/cgm", ["cgm"]),
    ("image/cis-cod", ["cod"]),
    ("image/g3fax", ["g3"]),
    ("image/gif", ["gif"]),
    ("image/heic", ["heic"]),
    ("image/heic-sequence", ["heics"]),
    ("image/heif", ["heif"]),
    ("image/heif-sequence", ["heifs"]),
    ("image/ief", ["ief"]),
    ("image/jp2", ["jp2", "jpg2"]),
    ("image/jpeg", ["jfif", "jpe", "jpeg", "jpg"]),
    ("image/jpm", ["jpm"]),
    ("image/jpx", ["jpf", "jpx"]),
    ("image/jxl", ["jxl"]),
    ("image/ktx", ["ktx"]),
    ("image/pict", ["pct", "pic", "pict"]),
    ("image/png", ["png", "pnz"]),
    ("image/prs.btif", ["btif"]),
    ("image/sgi", ["sgi"]),
    ("image/svg+xml", ["svg", "svgz"]),
    ("image/tiff", ["tif", "tiff"]),
    ("image/vnd.dece.graphic", ["uvg", "uvi", "uvvg", "uvvi"]),
    ("image/vnd.djvu", ["djv", "djvu"]),
    ("image/vnd.dvb.subtitle", ["sub"]),
    ("image/vnd.fastbidsheet", ["fbs"]),
    ("image/vnd.fpx", ["fpx"]),
    ("image/vnd.fst", ["fst"]),
    ("image/vnd.fujixerox.edmics-mmr", ["mmr"]),
    ("image/vnd.fujixerox.edmics-rlc", ["rlc"]),
    ("image/vnd.ms-modi", ["mdi"]),
    ("image/vnd.ms-photo", ["wdp"]),
    ("image/vnd.net-fpx", ["npx"]),
    ("image/vnd.radiance", ["hdr"]),
    ("image/vnd.rn-realflash", ["rf"]),
    ("image/vnd.wap.wbmp", ["wbmp"]),
    ("image/vnd.xiff", ["xif"]),
    ("image/webp", ["webp"]),
    ("image/x-3ds", ["3ds"]),
    ("image/x-adobe-dng", ["dng"]),
    ("image/x-canon-cr2", ["cr2"]),
    ("image/x-canon-crw", ["crw"]),
    ("image/x-cmu-raster", ["ras"]),
    ("image/x-cmx", ["cmx"]),
    ("image/x-epson-erf", ["erf"]),
    ("image/x-freehand", ["fh", "fh4", "fh5", "fh7", "fhc"]),
    ("image/x-fuji-raf", ["raf"]),
    ("image/x-icon", ["ico"]),
    ("image/x-jg", ["art"]),
    ("image/x-jng", ["jng"]),
    ("image/x-kodak-k25", ["k25"]),
    ("image/x-kodak-kdc", ["kdc"]),
    ("image/x-macpaint", ["mac", "pnt", "pntg"]),
    ("image/x-minolta-mrw", ["mrw"]),
    ("image/x-mrsid-image", ["sid"]),
    ("image/x-nikon-nef", ["nef"]),
    ("image/x-olympus-orf", ["orf"]),
    ("image/x-panasonic-rw", ["raw"]),
    ("image/x-panasonic-rw2", ["rw2", "rwl"]),
    ("image/x-pentax-pef", ["pef"]),
    ("image/x-portable-anymap", ["pnm"]),
    ("image/x-portable-bitmap", ["pbm"]),
    ("image/x-portable-graymap", ["pgm"]),
    ("image/x-portable-pixmap", ["ppm"]),
    ("image/x-quicktime", ["qti", "qtif"]),
    ("image/x-rgb", ["rgb"]),
    ("image/x-sigma-x3f", ["x3f"]),
    ("image/x-sony-arw", ["arw"]),
    ("image/x-sony-sr2", ["sr2"]),
    ("image/x-tga", ["tga"]),
    ("image/x-xbitmap", ["xbm"]),
    ("image/x-xpixmap", ["xpm"]),
    ("image/x-xwindowdump", ["xwd"]),
    ("model/gltf+json", ["gltf"]),
    ("model/gltf-binary", ["glb"]),
    ("model/iges", ["iges", "igs"]),
    ("model/mesh", ["mesh", "msh", "silo"]),
    ("model/vnd.collada+xml", ["dae"]),
    ("model/vnd.gdl", ["gdl"]),
    ("model/vnd.gtw", ["gtw"]),
    ("model/vnd.vtu", ["vtu"]),
    ("model/vrml", ["vrml"]),
    ("model/x3d+binary", ["x3db", "x3dbz"]),
    ("model/x3d+vrml", ["x3dv", "x3dvz"]),
    ("model/x3d+xml", ["x3d", "x3dz"]),
    ("x-world/x-vrml", ["flr", "wrl", "wrz", "xaf", "xof"])
  ]

end MediaType

end Http

end PluginStudio
