import CompilePlayground.Posix.Path
import CompilePlayground.Text.Utf8

namespace CompilePlayground.Http

open Posix

/-!
# Media types by file names

What a file holds is told from the end of its name. Case does not count, and a file of which
the name tells nothing is a sequence of bytes.
-/

namespace FileKind

/-- The media types of the ends of names. -/
def table : List (String × String) :=
  [
    ("7z", "application/x-7z-compressed"), ("aac", "audio/aac"), ("ai", "application/postscript"),
    ("aif", "audio/aiff"), ("aiff", "audio/aiff"), ("asc", "text/plain"),
    ("asf", "video/x-ms-asf"), ("asm", "text/plain"), ("atom", "application/atom+xml"),
    ("avi", "video/x-msvideo"), ("avif", "image/avif"), ("bat", "application/x-msdownload"),
    ("bin", "application/octet-stream"), ("bmp", "image/bmp"), ("bz", "application/x-bzip"),
    ("bz2", "application/x-bzip2"), ("c", "text/plain"), ("cc", "text/plain"),
    ("cpp", "text/plain"), ("css", "text/css"), ("csv", "text/csv"), ("cxx", "text/plain"),
    ("deb", "application/x-debian-package"), ("dib", "image/bmp"), ("doc", "application/msword"),
    ("docx", "application/vnd.openxmlformats-officedocument.wordprocessingml.document"),
    ("dtd", "application/xml-dtd"), ("eml", "message/rfc822"),
    ("eot", "application/vnd.ms-fontobject"), ("eps", "application/postscript"),
    ("epub", "application/epub+zip"), ("exe", "application/octet-stream"),
    ("flac", "audio/flac"), ("flv", "video/x-flv"), ("gif", "image/gif"),
    ("gz", "application/gzip"), ("h", "text/plain"), ("hh", "text/plain"),
    ("hpp", "text/plain"), ("htm", "text/html"), ("html", "text/html"),
    ("ico", "image/x-icon"), ("ics", "text/calendar"), ("ini", "text/plain"),
    ("jar", "application/java-archive"), ("java", "text/plain"), ("jpe", "image/jpeg"),
    ("jpeg", "image/jpeg"), ("jpg", "image/jpeg"), ("js", "text/javascript"),
    ("json", "application/json"), ("jsonld", "application/ld+json"), ("jsx", "text/jscript"),
    ("log", "text/plain"), ("m4a", "audio/m4a"), ("m4v", "video/x-m4v"),
    ("manifest", "application/x-ms-manifest"), ("map", "text/plain"),
    ("markdown", "text/markdown"), ("md", "text/markdown"), ("mht", "message/rfc822"),
    ("mid", "audio/mid"), ("midi", "audio/mid"), ("mjs", "text/javascript"),
    ("mkv", "video/x-matroska"), ("mov", "video/quicktime"), ("mp3", "audio/mpeg"),
    ("mp4", "video/mp4"), ("mpeg", "video/mpeg"), ("mpg", "video/mpeg"),
    ("odt", "application/vnd.oasis.opendocument.text"), ("oga", "audio/ogg"),
    ("ogg", "audio/ogg"), ("ogv", "video/ogg"), ("otf", "font/otf"),
    ("pdf", "application/pdf"), ("png", "image/png"),
    ("ppt", "application/vnd.ms-powerpoint"),
    ("pptx", "application/vnd.openxmlformats-officedocument.presentationml.presentation"),
    ("ps", "application/postscript"), ("py", "text/plain"), ("rar", "application/x-rar-compressed"),
    ("rs", "text/x-rust"), ("rss", "application/rss+xml"), ("rtf", "application/rtf"),
    ("sh", "application/x-sh"), ("sql", "application/x-sql"), ("svg", "image/svg+xml"),
    ("svgz", "image/svg+xml"), ("swf", "application/x-shockwave-flash"),
    ("tar", "application/x-tar"), ("tex", "application/x-tex"), ("text", "text/plain"),
    ("tgz", "application/x-compressed"), ("tif", "image/tiff"), ("tiff", "image/tiff"),
    ("toml", "text/x-toml"), ("ts", "video/vnd.dlna.mpeg-tts"),
    ("tsv", "text/tab-separated-values"),
    ("ttf", "font/ttf"), ("txt", "text/plain"), ("vcf", "text/x-vcard"),
    ("wasm", "application/wasm"), ("wav", "audio/wav"), ("weba", "audio/webm"),
    ("webm", "video/webm"), ("webmanifest", "application/manifest+json"),
    ("webp", "image/webp"), ("wmv", "video/x-ms-wmv"), ("woff", "font/woff"),
    ("woff2", "font/woff2"), ("xht", "application/xhtml+xml"),
    ("xhtml", "application/xhtml+xml"), ("xls", "application/vnd.ms-excel"),
    ("xlsx", "application/vnd.openxmlformats-officedocument.spreadsheetml.sheet"),
    ("xml", "text/xml"), ("xsl", "text/xml"), ("xslt", "application/xslt+xml"),
    ("xz", "application/x-xz"), ("yaml", "text/x-yaml"), ("yml", "text/x-yaml"),
    ("zip", "application/zip")]

/-- The media type of what is not known. -/
def unknown : String := "application/octet-stream"

/-- What stands after the last full stop of a name, unless that is where the name begins. -/
def ending? (name : Bytes) : Option Bytes :=
  let after := (name.reverse.takeWhile (· != dot)).reverse
  if after.length + 1 < name.length then some after else none

/-- The media type of a file with a name. -/
def ofName (name : Bytes) : String :=
  match ending? (Path.lastStep (Path.trimmed name)) with
  | none => unknown
  | some ending =>
    match Text.Utf8.decode? ending with
    | .error _ => unknown
    | .ok text => (table.lookup text.toLower).getD unknown

end FileKind

end CompilePlayground.Http
